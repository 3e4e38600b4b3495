import Swan.Esp.Inflow
import Swan.Transport.Frame

/-! # The outbound codec

`Outbound.process` pads, encrypts and numbers one raw IP packet. `openDatagram_sealDatagram`: an
inbound codec with the mirrored keys reads the packet back. `sent` is the list of the packets that a
codec accepts, with their datagrams; their sequence numbers increase (`sent_spec`). -/

namespace Swan.Esp

open Swan.Lib Swan.Xcrypto
open Swan.Transport (maxWireDatagram)

def errSeqWrapped : Err :=
  .errorf "github.com/wsm25/swan/esp: ESP sequence number wrapped after 2^32-1 packets"

/-- The outbound byte and packet rekey triggers; 0 disables one. -/
structure FlowLimit where
  bytes : UInt64
  packets : UInt64
  deriving DecidableEq, Repr

/-- The settings of the rekey trigger of an outbound codec. -/
structure FlowConfig where
  /-- The sequence number from which the trigger is raised, 0 to disable. -/
  warnAt : UInt32
  /-- Whether there is a channel for the trigger. -/
  flowWarn : Bool
  flowLimit : FlowLimit
  deriving DecidableEq, Repr

structure OutboundConfig where
  /-- The SPI that the peer provided. -/
  spi : UInt32
  selection : Selection
  keys : ChildKeys
  flow : FlowConfig
  deriving DecidableEq, Repr

/-- The encryption and the integrity key of an outbound codec. -/
def OutboundConfig.outboundKeys (cfg : OutboundConfig) : Bytes × Bytes :=
  (cfg.keys.skei, cfg.keys.skai)

structure Outbound where
  cfg : OutboundConfig
  seq : UInt32
  wrapped : Bool
  packets : UInt64
  bytesOut : UInt64
  /-- The trigger was raised: at most once for an SA. -/
  warned : Bool
  deriving DecidableEq, Repr

def newOutbound (cfg : OutboundConfig) : Outbound := ⟨cfg, 1, false, 0, 0, false⟩

/-- The protocol of the trailer for a first byte of an IP packet. -/
def ipNextHeader (firstByte : UInt8) : Except Err UInt8 :=
  if firstByte >>> 4 = 4 then .ok nextHeaderIPv4
  else if firstByte >>> 4 = 6 then .ok nextHeaderIPv6
  else .error (.errorf s!"github.com/wsm25/swan/esp: unsupported outbound IP version {firstByte >>> 4}")

/-- The number of pad bytes for a packet of length `n`. -/
def espPadLen (enc : EncryptionAlg) (n : ℕ) : ℕ :=
  (enc.blockLen - (n + 2) % enc.blockLen) % enc.blockLen

/-- The packet, the pad bytes 1, 2, …, the pad length and the protocol. -/
def espPlaintext (enc : EncryptionAlg) (packet : Bytes) (nextHeader : UInt8) : Bytes :=
  packet ++ (List.range (espPadLen enc packet.length)).map (fun i => UInt8.ofNat (i + 1)) ++
    [UInt8.ofNat (espPadLen enc packet.length), nextHeader]

def espHeader (spi seq : UInt32) : Bytes := putUint32 spi ++ putUint32 seq

/-- Raise the rekey trigger, at most once for an SA. -/
def Outbound.checkFlowTriggers (p : Outbound) : Outbound :=
  let flow := p.cfg.flow
  let limitHit := (flow.flowLimit.bytes > 0 ∧ p.bytesOut ≥ flow.flowLimit.bytes) ∨
    (flow.flowLimit.packets > 0 ∧ p.packets ≥ flow.flowLimit.packets)
  let seqHit := flow.warnAt > 0 ∧ p.seq ≥ flow.warnAt
  if p.warned ∨ !flow.flowWarn then p
  else if ¬limitHit ∧ ¬seqHit then p
  else { p with warned := true }

/-- Take the next sequence number and count the packet. -/
def Outbound.take (p : Outbound) (packet : Bytes) : Outbound :=
  Outbound.checkFlowTriggers { p with
    seq := p.seq + 1
    packets := p.packets + 1
    bytesOut := p.bytesOut + UInt64.ofNat packet.length }

@[simp] theorem Outbound.take_eq (p : Outbound) (packet : Bytes) :
    (p.take packet).cfg = p.cfg ∧ (p.take packet).seq = p.seq + 1 ∧
      (p.take packet).wrapped = p.wrapped := by
  unfold Outbound.take Outbound.checkFlowTriggers
  dsimp only
  split_ifs <;> exact ⟨rfl, rfl, rfl⟩

def wireLen (sel : Selection) (plain : Bytes) : ℕ :=
  let trailerICV := if sel.encryption.aead then sel.encryption.icvLen else sel.integrity.outputLen
  espHeaderLen + sel.encryption.ivLen + plain.length + trailerICV

variable [Crypto]

def prepareOutbound (cfg : OutboundConfig) :
    Except Err (PreparedEncryption × Option PreparedIntegrity) :=
  prepareCodec cfg.selection cfg.outboundKeys.1 cfg.outboundKeys.2

/-- The datagram around a plaintext: header, IV, ciphertext and the tag or the ICV. -/
def sealDatagram (cfg : OutboundConfig) (enc : PreparedEncryption)
    (integ : Option PreparedIntegrity) (seq : UInt32) (iv plain : Bytes) : Except Err Bytes := do
  let header := espHeader cfg.spi seq
  let datagram ← wrap "github.com/wsm25/swan/esp: encrypt ESP: "
    (enc.sealTo (header ++ iv) iv header plain)
  if cfg.selection.encryption.aead then .ok datagram
  else
    match integ with
    | none => .error (.errorf "github.com/wsm25/swan/esp: CBC requires an integrity transform")
    | some integ => do
      let icv ← wrap "github.com/wsm25/swan/esp: sign ESP ICV: " (integ.sign datagram)
      .ok (datagram ++ icv)

/-- Pad, encrypt and number one raw IP packet. -/
def Outbound.process (packet : Bytes) : Eff (Outbound × Rng) Bytes := do
  let (p, _) ← Eff.get
  if p.wrapped then Eff.fail errSeqWrapped else
  match prepareOutbound p.cfg with
  | .error e => Eff.fail e
  | .ok (enc, integ) =>
  if packet.length = 0 then
    Eff.fail (.errorf "github.com/wsm25/swan/esp: outbound packet is empty") else
  let nextHeader ← Eff.lift (ipNextHeader (packet.headD 0))
  let plain := espPlaintext p.cfg.selection.encryption packet nextHeader
  match ← (Eff.zoom Prod.snd (fun rng s => (s.1, rng))
      (fill p.cfg.selection.encryption.ivLen)).attempt with
  | .error e => Eff.fail (.wrapf "github.com/wsm25/swan/esp: generate ESP IV: " e)
  | .ok iv =>
  if p.seq = 0 then do
    Eff.modify fun (p, rng) => ({ p with wrapped := true }, rng)
    Eff.fail errSeqWrapped
  else do
  -- the number is used up even if the packet turns out to be too long
  Eff.modify fun (p, rng) => (p.take packet, rng)
  if wireLen p.cfg.selection plain > maxWireDatagram then
    Eff.fail (.errorf s!"github.com/wsm25/swan/esp: encapsulated packet {wireLen p.cfg.selection plain
      } bytes exceeds transport limit {maxWireDatagram}") else
  Eff.lift (sealDatagram p.cfg enc integ p.seq iv plain)

/-! ### A datagram is read back -/

section

omit [Crypto]

theorem espPadLen_lt (enc : EncryptionAlg) (n : ℕ) : espPadLen enc n < 16 := by
  rw [espPadLen, enc.blockLen_eq]
  cases enc.aead <;> simp <;> omega

theorem stripTrailer_espPlaintext {enc : EncryptionAlg} {packet : Bytes} {nextHeader : UInt8}
    (hpacket : packet ≠ [])
    (hnext : nextHeader = nextHeaderIPv4 ∨ nextHeader = nextHeaderIPv6) :
    stripTrailer (espPlaintext enc packet nextHeader) = .ok packet := by
  have hlt := espPadLen_lt enc packet.length
  have hpos : 0 < packet.length := List.length_pos_iff.mpr hpacket
  rw [espPlaintext]
  generalize espPadLen enc packet.length = n at hlt
  have hbyte : (UInt8.ofNat n).toNat = n := Nat.mod_eq_of_lt (by omega)
  set padded := packet ++ (List.range n).map fun i => UInt8.ofNat (i + 1) with hpadded
  have hpad : padded.length = packet.length + n := by simp [padded]
  have hlen : (padded ++ [UInt8.ofNat n, nextHeader]).length = packet.length + n + 2 := by
    simp [hpad]
  have hpadByte : (padded ++ [UInt8.ofNat n, nextHeader]).getD (packet.length + n + 2 - 2) 0 =
      UInt8.ofNat n := by
    rw [List.getD_eq_getElem?_getD, List.getElem?_append_right (by omega)]
    simp [hpad]
  have hnextByte : (padded ++ [UInt8.ofNat n, nextHeader]).getD (packet.length + n + 2 - 1) 0 =
      nextHeader := by
    rw [List.getD_eq_getElem?_getD, List.getElem?_append_right (by omega)]
    simp [hpad]
  have hinner : (padded ++ [UInt8.ofNat n, nextHeader]).take (packet.length + n + 2 - n - 2) =
      packet := by
    rw [show packet.length + n + 2 - n - 2 = packet.length by omega, hpadded, List.append_assoc,
      List.take_left' rfl]
  rw [stripTrailer, hlen, if_neg (by omega), hpadByte, hnextByte, hbyte]
  dsimp only
  rw [hinner, if_neg (by omega), if_neg (by rcases hnext with rfl | rfl <;> simp),
    if_neg (by omega)]

theorem length_espHeader (spi seq : UInt32) : (espHeader spi seq).length = espHeaderLen := by
  simp [espHeader, espHeaderLen]

theorem seqOf_espHeader (spi seq : UInt32) (rest : Bytes) : seqOf (espHeader spi seq ++ rest) = seq := by
  have h : slice (espHeader spi seq ++ rest) 4 8 = putUint32 seq := by
    have := slice_middle (putUint32 spi) (putUint32 seq) rest
    rw [length_putUint32, length_putUint32] at this
    rwa [espHeader, List.append_assoc]
  rw [seqOf, h, beUint32_putUint32]

theorem acceptSPI_espHeader (cfg : InboundConfig) (seq : UInt32) (rest : Bytes) :
    cfg.acceptSPI (espHeader cfg.spi seq ++ rest) = true := by
  have hlen : espHeaderLen ≤ (espHeader cfg.spi seq ++ rest).length := by
    rw [List.length_append, length_espHeader]
    omega
  have hspi : beUint32 ((espHeader cfg.spi seq ++ rest).take 4) = cfg.spi := by
    rw [espHeader, List.append_assoc, List.take_left' (length_putUint32 _), beUint32_putUint32]
  unfold InboundConfig.acceptSPI
  exact decide_eq_true ⟨hlen, hspi⟩

end

variable {enc : PreparedEncryption} {integ : Option PreparedIntegrity}

theorem prepareCodec_eq_ok {sel : Selection} {encKey integKey : Bytes}
    (h : prepareCodec sel encKey integKey = .ok (enc, integ)) :
    sel.encryption.prepare encKey = .ok enc ∧
      (sel.encryption.aead = false → ∃ i, integ = some i ∧ sel.integrity.prepare integKey = .ok i) := by
  obtain ⟨state, hstate, h⟩ := bind_eq_ok.mp h
  rw [wrap_eq_ok] at hstate
  cases haead : sel.encryption.aead with
  | true =>
    rw [haead, if_pos rfl] at h
    obtain ⟨rfl, rfl⟩ := Prod.mk.inj (Except.ok.inj h)
    exact ⟨hstate, fun h => by cases h⟩
  | false =>
    rw [haead, if_neg (by decide)] at h
    obtain ⟨i, hi, h⟩ := bind_eq_ok.mp h
    rw [wrap_eq_ok] at hi
    obtain ⟨rfl, rfl⟩ := Prod.mk.inj (Except.ok.inj h)
    exact ⟨hstate, fun _ => ⟨i, rfl, hi⟩⟩

theorem decryptBody_sealDatagram {cfg : OutboundConfig} {seq : UInt32} {iv plain datagram : Bytes}
    (hprep : prepareOutbound cfg = .ok (enc, integ))
    (hiv : iv.length = cfg.selection.encryption.ivLen)
    (h : sealDatagram cfg enc integ seq iv plain = .ok datagram) :
    (∃ rest, datagram = espHeader cfg.spi seq ++ rest) ∧
      decryptBody cfg.selection enc integ datagram = .ok plain := by
  obtain ⟨henc, hinteg⟩ := prepareCodec_eq_ok hprep
  obtain ⟨sealed, hsealed, h⟩ := bind_eq_ok.mp h
  rw [wrap_eq_ok] at hsealed
  have hheader := length_espHeader cfg.spi seq
  set header := espHeader cfg.spi seq
  cases haead : cfg.selection.encryption.aead with
  | true =>
    rw [haead, if_pos rfl] at h
    obtain rfl := Except.ok.inj h
    obtain ⟨body, rfl, hbody, hopen⟩ := PreparedEncryption.openTo_sealTo henc hsealed
    refine ⟨⟨iv ++ body, List.append_assoc _ _ _⟩, ?_⟩
    rw [List.append_assoc, decryptBody, List.drop_left' hheader, List.take_left' hiv,
      List.drop_left' hiv, List.take_left' hheader, haead]
    simp only [if_true, List.length_append]
    rw [if_neg (by omega), hopen]
    rfl
  | false =>
    obtain ⟨i, rfl, hi⟩ := hinteg haead
    rw [haead, if_neg (by decide)] at h
    obtain ⟨icv, hicv, h⟩ := bind_eq_ok.mp h
    rw [wrap_eq_ok] at hicv
    obtain rfl := Except.ok.inj h
    -- without AEAD the header is no additional data
    have hnone : enc.sealTo (header ++ iv) iv [] plain = .ok sealed := by
      obtain ⟨-, halg, -⟩ := EncryptionAlg.prepare_eq_ok henc
      rw [← hsealed]
      simp only [PreparedEncryption.sealTo, halg, haead, Bool.not_false, if_true]
    obtain ⟨body, rfl, hbody, hopen⟩ := PreparedEncryption.openTo_sealTo henc hnone
    obtain ⟨hverify, hlen⟩ := PreparedIntegrity.verify_sign hi hicv
    refine ⟨⟨iv ++ (body ++ icv), by simp only [List.append_assoc]⟩, ?_⟩
    have hauth : (header ++ (iv ++ (body ++ icv))).take
        ((header ++ (iv ++ (body ++ icv))).length - cfg.selection.integrity.outputLen) =
        header ++ iv ++ body := by
      rw [show header ++ (iv ++ (body ++ icv)) = header ++ iv ++ body ++ icv by
        simp only [List.append_assoc]]
      refine List.take_left' ?_
      simp only [List.length_append, hlen]
      omega
    rw [show header ++ iv ++ body ++ icv = header ++ (iv ++ (body ++ icv)) by
      simp only [List.append_assoc]]
    rw [decryptBody, List.drop_left' hheader, List.take_left' hiv, List.drop_left' hiv, haead]
    simp only [Bool.false_eq_true, if_false, hauth]
    have hcipher : (body ++ icv).length - cfg.selection.integrity.outputLen = body.length := by
      rw [List.length_append, hlen]
      omega
    rw [if_neg (by simp only [List.length_append]; omega), hcipher, List.take_left' rfl,
      List.drop_left' rfl, hverify, hopen]
    rfl

theorem openDatagram_sealDatagram {out : OutboundConfig} {cfg : InboundConfig} {seq : UInt32}
    {iv packet datagram : Bytes} {nextHeader : UInt8} (hspi : out.spi = cfg.spi)
    (hsel : out.selection = cfg.selection) (hkeys : out.outboundKeys = cfg.inboundKeys)
    (hprep : prepareOutbound out = .ok (enc, integ)) (hseq : seq ≠ 0)
    (hiv : iv.length = out.selection.encryption.ivLen) (hpacket : packet ≠ [])
    (hnext : ipNextHeader (packet.headD 0) = .ok nextHeader)
    (h : sealDatagram out enc integ seq iv (espPlaintext out.selection.encryption packet nextHeader)
      = .ok datagram) :
    openDatagram cfg datagram = .ok packet ∧ seqOf datagram = seq := by
  obtain ⟨⟨rest, hrest⟩, hdecrypt⟩ := decryptBody_sealDatagram hprep hiv h
  have hprepIn : prepareInbound cfg = .ok (enc, integ) := by
    rw [← hprep, prepareInbound, prepareOutbound, hsel, hkeys]
  have hseqOf : seqOf datagram = seq := by rw [hrest, seqOf_espHeader]
  have haccept : cfg.acceptSPI datagram = true := by
    rw [hrest, hspi]
    exact acceptSPI_espHeader cfg seq rest
  have hlong : ¬datagram.length < espHeaderLen := by
    rw [hrest, List.length_append, length_espHeader]
    omega
  have hproto : nextHeader = nextHeaderIPv4 ∨ nextHeader = nextHeaderIPv6 := by
    unfold ipNextHeader at hnext
    split_ifs at hnext
    · exact .inl (Except.ok.inj hnext).symm
    · exact .inr (Except.ok.inj hnext).symm
  refine ⟨?_, hseqOf⟩
  rw [openDatagram, hprepIn, ok_bind]
  simp only [haccept, Bool.not_true, Bool.false_eq_true, if_false]
  rw [if_neg hlong, hseqOf, if_neg hseq, ← hsel, hdecrypt, ok_bind]
  exact stripTrailer_espPlaintext hpacket hproto

/-! ### The packets of a codec -/

namespace Outbound

/-- The next sequence number; a counter that wrapped stands behind all numbers. -/
def next (p : Outbound) : ℕ := if p.seq = 0 then 2 ^ 32 else p.seq.toNat

omit [Crypto] in
theorem next_take {p : Outbound} (packet : Bytes) (h : p.seq ≠ 0) :
    p.next = p.seq.toNat ∧ (p.take packet).next = p.seq.toNat + 1 := by
  obtain ⟨-, hseq, -⟩ := p.take_eq packet
  refine ⟨if_neg h, ?_⟩
  have hlt := p.seq.toNat_lt
  have hadd : (p.seq + 1).toNat = (p.seq.toNat + 1) % 2 ^ 32 := by simp [UInt32.toNat_add]
  rw [next, hseq]
  split_ifs with hwrap
  · have h0 : (p.seq + 1).toNat = 0 := by rw [hwrap]; rfl
    omega
  · have h0 : (p.seq + 1).toNat ≠ 0 := ReplayWindow.toNat_ne_zero hwrap
    omega

structure Emits (p : Outbound) (packet datagram : Bytes) : Prop where
  seq_ne_zero : p.seq ≠ 0
  seqOf_eq : seqOf datagram = p.seq
  /-- The other end of the child reads the packet back. -/
  reads : ∀ cfg : InboundConfig, p.cfg.spi = cfg.spi → p.cfg.selection = cfg.selection →
    p.cfg.outboundKeys = cfg.inboundKeys → openDatagram cfg datagram = .ok packet

theorem wp_process (packet : Bytes) (p : Outbound) (rng : Rng) :
    (process packet).wp (fun r s => s.1.cfg = p.cfg ∧ p.next ≤ s.1.next ∧
      ∀ d, r = .ok d → p.Emits packet d ∧ s.1.next = p.next + 1) (p, rng) := by
  have hsame : ∀ e : Err, ∀ rng', (fun (r : Except Err Bytes) (s : Outbound × Rng) =>
      s.1.cfg = p.cfg ∧ p.next ≤ s.1.next ∧ ∀ d, r = .ok d → p.Emits packet d ∧
        s.1.next = p.next + 1) (.error e) (p, rng') :=
    fun e rng' => ⟨rfl, le_rfl, fun d h => by cases h⟩
  unfold process
  rw [Eff.wp_bind, Eff.wp_get, Eff.next_ok]
  dsimp only
  refine Eff.wp_ite (fun _ => hsame _ _) fun hwrapped => ?_
  cases hprep : prepareOutbound p.cfg with
  | error e => exact hsame _ _
  | ok states =>
  obtain ⟨enc, integ⟩ := states
  refine Eff.wp_ite (fun _ => hsame _ _) fun hlen => ?_
  rw [Eff.wp_bind, Eff.wp_lift]
  cases hnext : ipNextHeader (packet.headD 0) with
  | error e => exact hsame _ _
  | ok nextHeader =>
  rw [Eff.next_ok, Eff.wp_bind, Eff.wp_attempt, Eff.wp_zoom]
  rcases hfill : (fill p.cfg.selection.encryption.ivLen).run rng with ⟨e | iv, rng'⟩
  · exact Eff.wp_run hfill (Eff.next_caught_error (hsame _ _) (hsame _ _))
  refine Eff.wp_run hfill ?_
  rw [caught_ok, Eff.next_ok]
  dsimp only
  refine Eff.wp_ite (fun hzero => ?_) fun hseq => ?_
  · -- the counter has wrapped
    have hnextWrap : p.next ≤ ({ p with wrapped := true } : Outbound).next := le_rfl
    exact ⟨rfl, hnextWrap, fun d h => by cases h⟩
  · obtain ⟨hcfg, -, -⟩ := p.take_eq packet
    obtain ⟨hnow, hthen⟩ := next_take packet hseq
    have hle : p.next ≤ (p.take packet).next := by omega
    have hsucc : (p.take packet).next = p.next + 1 := by omega
    rw [Eff.wp_bind, Eff.wp_modify, Eff.next_ok]
    refine Eff.wp_ite (fun _ => ⟨hcfg, hle, fun d h => by cases h⟩) fun hfits => ?_
    rw [Eff.wp_lift]
    refine ⟨hcfg, hle, fun d hd => ⟨⟨hseq, ?_, fun cfg hspi hsel hkeys => ?_⟩, hsucc⟩⟩
    · obtain ⟨⟨rest, hrest⟩, -⟩ := decryptBody_sealDatagram hprep (length_of_fill hfill) hd
      rw [hrest, seqOf_espHeader]
    · have hpacket : packet ≠ [] := fun h => hlen (by rw [h]; rfl)
      exact (openDatagram_sealDatagram hspi hsel hkeys hprep hseq (length_of_fill hfill) hpacket
        hnext hd).1

/-- The packets that a codec accepts out of a sequence, with their datagrams. -/
def sent : List Bytes → Outbound × Rng → List (Bytes × Bytes)
  | [], _ => []
  | packet :: packets, s =>
    match (process packet).run s with
    | (.ok datagram, s') => (packet, datagram) :: sent packets s'
    | (.error _, s') => sent packets s'

theorem sent_spec (cfg : InboundConfig) : ∀ (packets : List Bytes) (p : Outbound) (rng : Rng),
    p.cfg.spi = cfg.spi → p.cfg.selection = cfg.selection → p.cfg.outboundKeys = cfg.inboundKeys →
    (∀ m ∈ sent packets (p, rng), openDatagram cfg m.2 = .ok m.1 ∧ seqOf m.2 ≠ 0 ∧
      p.next ≤ (seqOf m.2).toNat) ∧
    (sent packets (p, rng)).Pairwise fun m m' => (seqOf m.2).toNat < (seqOf m'.2).toNat
  | [], _, _, _, _, _ => ⟨fun m hm => absurd hm List.not_mem_nil, List.Pairwise.nil⟩
  | packet :: packets, p, rng, hspi, hsel, hkeys => by
    have hp := wp_process packet p rng
    rw [sent]
    rcases hrun : (process packet).run (p, rng) with ⟨e | d, p', rng'⟩
    · obtain ⟨hcfg, hle, -⟩ := Eff.wp_of_run hp hrun
      obtain ⟨ih, hpair⟩ := sent_spec cfg packets p' rng' (by rw [hcfg]; exact hspi)
        (by rw [hcfg]; exact hsel) (by rw [hcfg]; exact hkeys)
      exact ⟨fun m hm => ⟨(ih m hm).1, (ih m hm).2.1, hle.trans (ih m hm).2.2⟩, hpair⟩
    · obtain ⟨hcfg, hle, hok⟩ := Eff.wp_of_run hp hrun
      obtain ⟨hemits, hstep⟩ := hok d rfl
      obtain ⟨ih, hpair⟩ := sent_spec cfg packets p' rng' (by rw [hcfg]; exact hspi)
        (by rw [hcfg]; exact hsel) (by rw [hcfg]; exact hkeys)
      have hfirst : (seqOf d).toNat = p.next := by
        rw [hemits.seqOf_eq, next, if_neg hemits.seq_ne_zero]
      have hlater : ∀ m ∈ sent packets (p', rng'), p.next < (seqOf m.2).toNat := fun m hm => by
        have := (ih m hm).2.2
        dsimp only at hstep
        omega
      refine ⟨fun m hm => ?_, List.pairwise_cons.mpr ⟨fun m hm => ?_, hpair⟩⟩
      · rcases List.mem_cons.mp hm with rfl | hm
        · refine ⟨hemits.reads cfg hspi hsel hkeys, ?_, hfirst.ge⟩
          rw [hemits.seqOf_eq]
          exact hemits.seq_ne_zero
        · exact ⟨(ih m hm).1, (ih m hm).2.1, (hlater m hm).le⟩
      · rw [hfirst]
        exact hlater m hm

end Outbound

end Swan.Esp
