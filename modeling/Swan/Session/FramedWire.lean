import Swan.Transport.Frame

/-! # Datagrams over a byte stream

`framedWire` of `wire.go` sends a datagram as a frame, two bytes of length and the payload, and cuts the
frames out of the stream again. The stream underneath takes as few bytes as it likes of a write and
splits what it carries as it likes into reads; the end of the stream comes alone or with the last bytes.

`Holds w b` says that the bytes which a reader has accumulated and those that are still to come are `b`;
`read_frame` and `read_end` say what one call returns from there, and
`framed_round_trip` what a sequence of calls returns for everything that was written, cut anywhere. -/

namespace Swan.Session

open Swan.Lib Swan.Transport

def frame (p : Bytes) : Bytes := putUint16 (UInt16.ofNat p.length) ++ p

/-- The frames of several datagrams in a row. -/
def frames (ds : List Bytes) : Bytes := (ds.map frame).flatten

/-! ### Writing -/

/-- The stream as its writer sees it: what it has taken, and for each write to come how many bytes it
takes at most and which error it returns. -/
structure Sink where
  out : Bytes
  answers : ℕ → ℕ × Option Err

/-- One write to the stream: the number of bytes it took. -/
def Sink.write (b : Bytes) : Eff Sink ℕ := fun s =>
  (match (s.answers 0).2 with
    | none => .ok (min (s.answers 0).1 b.length)
    | some e => .error e,
   ⟨s.out ++ b.take (s.answers 0).1, fun k => s.answers (k + 1)⟩)

/-- Write until nothing is left of the frame; every round takes a byte at least. -/
def writeLoop : ℕ → Bytes → Eff Sink Unit
  | _, [] => pure ()
  | 0, _ :: _ => Eff.fail (.panicked "unreachable")
  | fuel + 1, x :: rest => do
    let n ← Sink.write (x :: rest)
    if n = 0 then Eff.fail ioErrShortWrite else writeLoop fuel ((x :: rest).drop n)

def write (p : Bytes) : Eff Sink ℕ :=
  if maxWireDatagram < p.length then Eff.fail ioErrShortWrite else do
  writeLoop (frame p).length (frame p)
  pure p.length

/-- Send datagrams one after the other. -/
def writeAll (ds : List Bytes) : Eff Sink Unit := Eff.forEach (fun d => do let _ ← write d; pure ()) ds

theorem Sink.write_ok {b : Bytes} {s s' : Sink} {n : ℕ} (h : (Sink.write b).run s = (.ok n, s')) :
    n ≤ b.length ∧ s'.out = s.out ++ b.take n := by
  have hfst := congrArg Prod.fst h
  have hsnd := congrArg Prod.snd h
  simp only [Sink.write, Eff.run] at hfst hsnd
  split at hfst
  · obtain rfl := Except.ok.inj hfst
    refine ⟨Nat.min_le_right _ _, ?_⟩
    rw [← hsnd, ← List.take_eq_take_min]
  · cases hfst

theorem writeLoop_ok : ∀ {fuel : ℕ} {rest : Bytes} {s s' : Sink} {u : Unit},
    (writeLoop fuel rest).run s = (.ok u, s') → s'.out = s.out ++ rest
  | fuel, [], s, s', u, h => by
    have hs : s = s' := by cases fuel <;> exact congrArg Prod.snd h
    rw [hs, List.append_nil]
  | 0, _ :: _, _, _, _, h => by cases congrArg Prod.fst h
  | fuel + 1, x :: rest, s, s', u, h => by
    obtain ⟨n, s₁, hwrite, h⟩ := Eff.run_bind_ok h
    obtain ⟨hn, hout⟩ := Sink.write_ok hwrite
    by_cases hzero : n = 0
    · rw [if_pos hzero] at h
      cases congrArg Prod.fst h
    · rw [if_neg hzero] at h
      rw [writeLoop_ok h, hout, List.append_assoc, List.take_append_drop]

theorem write_ok {p : Bytes} {s s' : Sink} {n : ℕ} (h : (write p).run s = (.ok n, s')) :
    n = p.length ∧ p.length ≤ maxWireDatagram ∧ s'.out = s.out ++ frame p := by
  rw [write] at h
  by_cases hlong : maxWireDatagram < p.length
  · rw [if_pos hlong] at h
    cases congrArg Prod.fst h
  · rw [if_neg hlong] at h
    obtain ⟨u, s₁, hloop, h⟩ := Eff.run_bind_ok h
    obtain rfl : s₁ = s' := congrArg Prod.snd h
    exact ⟨(Except.ok.inj (congrArg Prod.fst h)).symm, not_lt.mp hlong, writeLoop_ok hloop⟩

theorem writeAll_ok : ∀ {ds : List Bytes} {s s' : Sink} {u : Unit},
    (writeAll ds).run s = (.ok u, s') →
      s'.out = s.out ++ frames ds ∧ ∀ d ∈ ds, d.length ≤ maxWireDatagram
  | [], s, s', u, h => by
    obtain rfl : s = s' := congrArg Prod.snd h
    exact ⟨(List.append_nil _).symm, fun d hd => absurd hd List.not_mem_nil⟩
  | d :: ds, s, s', u, h => by
    obtain ⟨u₁, s₁, hd, h⟩ := Eff.run_bind_ok h
    obtain ⟨n, s₂, hwrite, hpure⟩ := Eff.run_bind_ok hd
    obtain rfl : s₂ = s₁ := congrArg Prod.snd hpure
    obtain ⟨-, hlen, hout⟩ := write_ok hwrite
    obtain ⟨hrest, hall⟩ := writeAll_ok h
    refine ⟨?_, List.forall_mem_cons.mpr ⟨hlen, hall⟩⟩
    rw [hrest, hout, List.append_assoc]
    rfl

/-- The stream takes something of every write. -/
def Sink.Healthy (s : Sink) : Prop := ∀ k, 0 < (s.answers k).1 ∧ (s.answers k).2 = none

theorem writeLoop_of_healthy : ∀ (fuel : ℕ) (rest : Bytes) (s : Sink), s.Healthy → rest.length ≤ fuel →
    ∃ s', (writeLoop fuel rest).run s = (.ok (), s') ∧ s'.Healthy
  | fuel, [], s, hs, _ => ⟨s, by cases fuel <;> rfl, hs⟩
  | 0, x :: rest, _, _, h => absurd h (by simp)
  | fuel + 1, x :: rest, s, hs, h => by
    obtain ⟨hpos, herr⟩ := hs 0
    set n := min (s.answers 0).1 (x :: rest).length with hn
    set s₁ : Sink := ⟨s.out ++ (x :: rest).take (s.answers 0).1, fun k => s.answers (k + 1)⟩ with hs₁
    have hwrite : (Sink.write (x :: rest)).run s = (.ok n, s₁) := by
      simp only [Sink.write, Eff.run, herr, hn, hs₁]
    have hlen : 0 < (x :: rest).length := Nat.succ_pos _
    have hzero : n ≠ 0 := by omega
    have hless : ((x :: rest).drop n).length ≤ fuel := by
      rw [List.length_drop]
      omega
    obtain ⟨s', hrun, hs'⟩ := writeLoop_of_healthy fuel ((x :: rest).drop n) s₁ (fun k => hs (k + 1)) hless
    refine ⟨s', ?_, hs'⟩
    rw [writeLoop, Eff.run_bind_of_ok hwrite, if_neg hzero, hrun]

theorem writeAll_of_healthy : ∀ {ds : List Bytes} {s : Sink}, s.Healthy →
    (∀ d ∈ ds, d.length ≤ maxWireDatagram) → ∃ s', (writeAll ds).run s = (.ok (), s')
  | [], s, _, _ => ⟨s, rfl⟩
  | d :: ds, s, hs, hlen => by
    obtain ⟨s₁, hloop, hs₁⟩ := writeLoop_of_healthy _ (frame d) s hs le_rfl
    have hwrite : (write d).run s = (.ok d.length, s₁) := by
      rw [write, if_neg (not_lt.mpr (hlen d List.mem_cons_self)), Eff.run_bind_of_ok hloop]
      rfl
    obtain ⟨s', hrest⟩ := writeAll_of_healthy hs₁ fun e he => hlen e (List.mem_cons_of_mem _ he)
    have hone : (do let _ ← write d; pure () : Eff Sink Unit).run s = (.ok (), s₁) :=
      Eff.run_bind_of_ok hwrite
    refine ⟨s', ?_⟩
    rw [writeAll, Eff.forEach, Eff.run_bind_of_ok hone]
    exact hrest

/-! ### Reading -/

/-- One read of the stream: the bytes and the error that come with them. -/
structure Answer where
  data : Bytes
  err : Option Err
  deriving DecidableEq, Repr

/-- The error of a read that ends the accumulation: the end of the stream together with data is left
to the next read. -/
def Answer.fatal (a : Answer) : Option Err := if a.err = some ioEOF ∧ a.data ≠ [] then none else a.err

/-- The reader: the bytes accumulated so far, the error to return once they are used up, and the reads
of the stream to come. After the last of them the stream is at its end. -/
structure FramedWire where
  acc : Bytes
  terminal : Option Err
  source : List Answer
  deriving DecidableEq, Repr

def frameLen (acc : Bytes) : ℕ := (beUint16 acc).toNat

def Complete (acc : Bytes) : Prop := 2 ≤ acc.length ∧ 2 + frameLen acc ≤ acc.length

instance (acc : Bytes) : Decidable (Complete acc) := inferInstanceAs (Decidable (_ ∧ _))

/-- The reader with a latched error, when the first frame is not complete. -/
def settle (acc : Bytes) (e : Err) (source : List Answer) : Except Err Unit × FramedWire :=
  if acc = [] then (.error e, ⟨[], some e, source⟩)
  else if Complete acc then (.ok (), ⟨acc, some e, source⟩)
  else (.error ioErrUnexpectedEOF, ⟨[], some e, source⟩)

/-- Read the stream until the first frame is complete. -/
def fill (acc : Bytes) : List Answer → Except Err Unit × FramedWire
  | [] => if Complete acc then (.ok (), ⟨acc, none, []⟩) else settle acc ioEOF []
  | a :: source =>
    if Complete acc then (.ok (), ⟨acc, none, a :: source⟩)
    else match a.fatal with
      | none => fill (acc ++ a.data) source
      | some e => settle (acc ++ a.data) e source

def accumulate : Eff FramedWire Unit := fun w =>
  match w.terminal with
  | some e => settle w.acc e w.source
  | none => fill w.acc w.source

/-- Take the first frame off the accumulated bytes. -/
def takeFrame (size : ℕ) : Eff FramedWire Bytes := do
  let w ← Eff.get
  if size < frameLen w.acc then Eff.fail ioErrShortBuffer else do
  Eff.modify fun w => { w with acc := w.acc.drop (2 + frameLen w.acc) }
  pure (slice w.acc 2 (2 + frameLen w.acc))

/-- One datagram, into a buffer of `size` bytes. -/
def read (size : ℕ) : Eff FramedWire Bytes := do
  accumulate
  takeFrame size

/-! ### What a reader holds -/

def coming (source : List Answer) : Bytes := (source.map Answer.data).flatten

/-- The stream fails with its end only, alone or with the last bytes. -/
def Clean : List Answer → Prop
  | [] => True
  | a :: source => (a.err = none ∧ Clean source) ∨ (a.err = some ioEOF ∧ source = [])

/-- The bytes that a reader has accumulated and those to come are `b`. -/
structure Holds (w : FramedWire) (b : Bytes) : Prop where
  bytes : w.acc ++ coming w.source = b
  ended : (w.terminal = none ∧ Clean w.source) ∨ (w.terminal = some ioEOF ∧ w.source = [])

theorem frameLen_append {acc : Bytes} (h : 2 ≤ acc.length) (x : Bytes) :
    frameLen (acc ++ x) = frameLen acc := by
  rw [frameLen, beUint16, List.take_append_of_le_length h]
  rfl

theorem Complete.append {acc : Bytes} (h : Complete acc) (x : Bytes) : Complete (acc ++ x) := by
  rw [Complete, frameLen_append h.1, List.length_append]
  exact ⟨h.1.trans (Nat.le_add_right _ _), h.2.trans (Nat.le_add_right _ _)⟩

theorem not_complete_nil : ¬Complete [] := by decide

/-- The error of a reader that holds no complete frame. -/
def endOf (b : Bytes) : Err := if b = [] then ioEOF else ioErrUnexpectedEOF

/-- What accumulating ends in when the stream carries `b` up to its end. -/
def Outcome (b : Bytes) (r : Except Err Unit × FramedWire) : Prop :=
  (Complete b ∧ r.1 = .ok () ∧ Complete r.2.acc ∧ Holds r.2 b) ∨
    (¬Complete b ∧ r.1 = .error (endOf b) ∧ Holds r.2 [])

theorem settle_outcome (acc : Bytes) : Outcome acc (settle acc ioEOF []) := by
  rw [settle]
  by_cases hnil : acc = []
  · rw [if_pos hnil, hnil]
    exact .inr ⟨not_complete_nil, rfl, rfl, .inr ⟨rfl, rfl⟩⟩
  rw [if_neg hnil]
  by_cases hacc : Complete acc
  · rw [if_pos hacc]
    exact .inl ⟨hacc, rfl, hacc, List.append_nil _, .inr ⟨rfl, rfl⟩⟩
  · rw [if_neg hacc]
    exact .inr ⟨hacc, by rw [endOf, if_neg hnil], rfl, .inr ⟨rfl, rfl⟩⟩

/-- **The rounds of the accumulation.** -/
theorem fill_outcome : ∀ (source : List Answer) (acc : Bytes), Clean source →
    Outcome (acc ++ coming source) (fill acc source)
  | [], acc, _ => by
    rw [fill, show acc ++ coming [] = acc from List.append_nil _]
    by_cases hacc : Complete acc
    · rw [if_pos hacc]
      exact .inl ⟨hacc, rfl, hacc, List.append_nil _, .inl ⟨rfl, trivial⟩⟩
    · rw [if_neg hacc]
      exact settle_outcome acc
  | a :: source, acc, hclean => by
    rw [fill]
    by_cases hacc : Complete acc
    · rw [if_pos hacc]
      exact .inl ⟨hacc.append _, rfl, hacc, rfl, .inl ⟨rfl, hclean⟩⟩
    rw [if_neg hacc, show coming (a :: source) = a.data ++ coming source from rfl, ← List.append_assoc]
    rcases hclean with ⟨herr, hclean⟩ | ⟨herr, rfl⟩
    · have hfatal : a.fatal = none := by simp [Answer.fatal, herr]
      rw [hfatal]
      exact fill_outcome source (acc ++ a.data) hclean
    · -- the end of the stream, with its last bytes or alone
      rw [show coming [] = [] from rfl, List.append_nil]
      by_cases hdata : a.data = []
      · have hfatal : a.fatal = some ioEOF := by simp [Answer.fatal, herr, hdata]
        rw [hfatal]
        exact settle_outcome _
      · have hfatal : a.fatal = none := by simp [Answer.fatal, herr, hdata]
        rw [hfatal]
        have hlast := fill_outcome [] (acc ++ a.data) trivial
        rwa [show coming [] = [] from rfl, List.append_nil] at hlast

theorem accumulate_outcome {w : FramedWire} {b : Bytes} (hw : Holds w b) :
    Outcome b (accumulate.run w) := by
  rcases hw with ⟨hbytes, ⟨hterm, hclean⟩ | ⟨hterm, hsource⟩⟩
  · have hrun : accumulate.run w = fill w.acc w.source := by simp only [accumulate, Eff.run, hterm]
    rw [hrun, ← hbytes]
    exact fill_outcome w.source w.acc hclean
  · have hrun : accumulate.run w = settle w.acc ioEOF [] := by
      simp only [accumulate, Eff.run, hterm, hsource]
    rw [hsource, show coming [] = [] from rfl, List.append_nil] at hbytes
    rw [hrun, ← hbytes]
    exact settle_outcome w.acc

/-! ### Frames -/

@[simp] theorem length_frame (d : Bytes) : (frame d).length = 2 + d.length := by
  rw [frame, List.length_append, length_putUint16]

theorem frameLen_frame {d : Bytes} (hd : d.length ≤ maxWireDatagram) (rest : Bytes) :
    frameLen (frame d ++ rest) = d.length := by
  have hlt : d.length < UInt16.size := Nat.lt_succ_of_le hd
  rw [frameLen, frame, List.append_assoc, beUint16_put, UInt16.toNat_ofNat_of_lt' hlt]

theorem complete_frame {d : Bytes} (hd : d.length ≤ maxWireDatagram) (rest : Bytes) :
    Complete (frame d ++ rest) := by
  rw [Complete, frameLen_frame hd, List.length_append, length_frame]
  omega

theorem not_complete_take {d : Bytes} (hd : d.length ≤ maxWireDatagram) {k : ℕ}
    (hk : k < (frame d).length) : ¬Complete ((frame d).take k) := by
  rintro ⟨htwo, hall⟩
  have hlen : ((frame d).take k).length = k := by rw [List.length_take, min_eq_left hk.le]
  have hsame := frameLen_append htwo ((frame d).drop k)
  rw [List.take_append_drop] at hsame
  have hfull := frameLen_frame hd []
  rw [List.append_nil] at hfull
  rw [← hsame, hfull, hlen] at hall
  rw [length_frame] at hk
  omega

/-- **One call returns the first datagram.** -/
theorem read_frame {w : FramedWire} {d rest : Bytes} {size : ℕ} (hd : d.length ≤ maxWireDatagram)
    (hsize : d.length ≤ size) (hw : Holds w (frame d ++ rest)) :
    ∃ w', (read size).run w = (.ok d, w') ∧ Holds w' rest := by
  rcases accumulate_outcome hw with ⟨-, hok, hacc, hw₁⟩ | ⟨hnot, -⟩
  swap
  · exact absurd (complete_frame hd rest) hnot
  set w₁ := (accumulate.run w).2 with hw₁'
  have hrun : accumulate.run w = (.ok (), w₁) := Prod.ext hok rfl
  have hlen : frameLen w₁.acc = d.length := by
    rw [← frameLen_append hacc.1 (coming w₁.source), hw₁.bytes, frameLen_frame hd]
  have hfits : (frame d).length ≤ w₁.acc.length := by
    rw [length_frame, ← hlen]
    exact hacc.2
  -- the accumulated bytes begin with the frame
  obtain ⟨more, hmore⟩ : frame d <+: w₁.acc :=
    List.prefix_of_prefix_length_le ⟨rest, rfl⟩ ⟨_, hw₁.bytes⟩ hfits
  have hslice : slice w₁.acc 2 (2 + d.length) = d := by
    rw [← hmore, frame, List.append_assoc]
    exact slice_middle _ _ _
  have hdrop : w₁.acc.drop (2 + d.length) = more := by
    rw [← hmore, List.drop_left' (length_frame d)]
  refine ⟨{ w₁ with acc := more }, ?_, ?_, hw₁.ended⟩
  · rw [read, Eff.run_bind_of_ok hrun]
    change (if size < frameLen w₁.acc then Eff.fail ioErrShortBuffer else do
      Eff.modify fun w => { w with acc := w.acc.drop (2 + frameLen w.acc) }
      pure (slice w₁.acc 2 (2 + frameLen w₁.acc)) : Eff FramedWire Bytes).run w₁ = _
    rw [hlen, if_neg (not_lt.mpr hsize), hslice]
    refine Prod.ext rfl ?_
    change { w₁ with acc := w₁.acc.drop (2 + frameLen w₁.acc) } = { w₁ with acc := more }
    rw [hlen, hdrop]
  · have hbytes := hw₁.bytes
    rw [← hmore, List.append_assoc] at hbytes
    exact List.append_cancel_left hbytes

/-- **One call without a complete frame** returns the end of the stream. -/
theorem read_end {w : FramedWire} {b : Bytes} (hb : ¬Complete b) (size : ℕ) (hw : Holds w b) :
    ∃ w', (read size).run w = (.error (endOf b), w') ∧ Holds w' [] := by
  rcases accumulate_outcome hw with ⟨hcomplete, -⟩ | ⟨-, herr, hw'⟩
  · exact absurd hcomplete hb
  · have hrun : accumulate.run w = (.error (endOf b), (accumulate.run w).2) := Prod.ext herr rfl
    exact ⟨_, Eff.run_bind_of_error hrun, hw'⟩

/-! ### Sequences of calls -/

/-- The results of calls with buffers of these sizes. -/
def reads (sizes : List ℕ) (w : FramedWire) : List (Except Err Bytes) := (Eff.trace (sizes.map read) w).1

theorem reads_cons {size : ℕ} {sizes : List ℕ} {w w' : FramedWire} {r : Except Err Bytes}
    (h : (read size).run w = (r, w')) : reads (size :: sizes) w = r :: reads sizes w' := by
  rw [reads, List.map_cons, Eff.trace_cons_of_run _ h]
  rfl

theorem reads_after_end : ∀ (later : List ℕ) {w : FramedWire}, Holds w [] →
    reads later w = later.map fun _ => .error ioEOF
  | [], _, _ => rfl
  | size :: later, w, hw => by
    obtain ⟨w', hrun, hw'⟩ := read_end not_complete_nil size hw
    rw [reads_cons hrun, reads_after_end later hw']
    rfl

/-- **All calls**: the datagrams, then the end. -/
theorem reads_frames {tail : Bytes} (htail : ¬Complete tail) (last : ℕ) (later : List ℕ) :
    ∀ {ds : List Bytes} {sizes : List ℕ} {w : FramedWire}, sizes.length = ds.length →
      (∀ d ∈ ds, d.length ≤ maxWireDatagram) → (∀ size ∈ sizes, ∀ d ∈ ds, d.length ≤ size) →
      Holds w (frames ds ++ tail) →
      reads (sizes ++ last :: later) w =
        ds.map .ok ++ .error (endOf tail) :: later.map fun _ => .error ioEOF
  | [], [], w, _, _, _, hw => by
    obtain ⟨w', hrun, hw'⟩ := read_end htail last hw
    rw [List.nil_append, reads_cons hrun, reads_after_end later hw']
    rfl
  | [], _ :: _, _, h, _, _, _ => by cases h
  | _ :: _, [], _, h, _, _, _ => by cases h
  | d :: ds, size :: sizes, w, hlen, hds, hsizes, hw => by
    have hframes : frames (d :: ds) ++ tail = frame d ++ (frames ds ++ tail) := by
      rw [← List.append_assoc]
      rfl
    rw [hframes] at hw
    obtain ⟨w', hrun, hw'⟩ := read_frame (hds d List.mem_cons_self)
      (hsizes size List.mem_cons_self d List.mem_cons_self) hw
    rw [List.cons_append, reads_cons hrun, reads_frames htail last later (Nat.succ.inj hlen)
      (fun e he => hds e (List.mem_cons_of_mem _ he))
      (fun k hk e he => hsizes k (List.mem_cons_of_mem _ hk) e (List.mem_cons_of_mem _ he)) hw']
    rfl

/-! ### Truncated streams -/

/-- The first `m` of the datagrams are the ones whose frames are complete within `k` bytes. -/
structure CutAt (ds : List Bytes) (k m : ℕ) : Prop where
  le : m ≤ ds.length
  fits : (frames (ds.take m)).length ≤ k
  next : m < ds.length → k < (frames (ds.take (m + 1))).length

theorem frames_cons (d : Bytes) (ds : List Bytes) : frames (d :: ds) = frame d ++ frames ds := rfl

theorem exists_cut : ∀ {ds : List Bytes} {k : ℕ}, (∀ d ∈ ds, d.length ≤ maxWireDatagram) →
    k ≤ (frames ds).length → ∃ m tail, CutAt ds k m ∧
      (frames ds).take k = frames (ds.take m) ++ tail ∧ ¬Complete tail
  | [], k, _, hk => ⟨0, [], ⟨le_rfl, Nat.zero_le _, fun h => absurd h (lt_irrefl 0)⟩,
      List.take_of_length_le (Nat.zero_le k), not_complete_nil⟩
  | d :: ds, k, hds, hk => by
    have hd := hds d List.mem_cons_self
    by_cases hfirst : (frame d).length ≤ k
    · rw [frames_cons, List.length_append] at hk
      have hrest : k - (frame d).length ≤ (frames ds).length := by omega
      obtain ⟨m, tail, hcut, htake, htail⟩ :=
        exists_cut (fun e he => hds e (List.mem_cons_of_mem _ he)) hrest
      refine ⟨m + 1, tail, ⟨Nat.succ_le_succ hcut.le, ?_, fun hm => ?_⟩, ?_, htail⟩
      · rw [List.take_succ_cons, frames_cons, List.length_append]
        have := hcut.fits
        omega
      · have := hcut.next (Nat.lt_of_succ_lt_succ hm)
        rw [List.take_succ_cons, frames_cons, List.length_append]
        omega
      · rw [frames_cons, List.take_succ_cons, frames_cons, List.append_assoc, ← htake,
          List.take_append, List.take_of_length_le hfirst]
    · refine ⟨0, (frame d).take k, ⟨Nat.zero_le _, Nat.zero_le _, fun _ => ?_⟩, ?_,
        not_complete_take hd (not_le.mp hfirst)⟩
      · rw [List.take_succ_cons, List.take_zero, frames_cons, List.length_append]
        have := not_le.mp hfirst
        omega
      · rw [frames_cons, List.take_append_of_le_length (not_le.mp hfirst).le]
        rfl

/-- **Datagrams over a stream.** What was written comes out again, for every way in which the stream
takes and splits the bytes; a stream that ends early gives the complete datagrams before its end. -/
theorem framed_round_trip {ds : List Bytes} {s s' : Sink} (hempty : s.out = [])
    (hwrite : (writeAll ds).run s = (.ok (), s')) {k : ℕ} (hk : k ≤ s'.out.length)
    {source : List Answer} (hclean : Clean source) (hsource : coming source = s'.out.take k) :
    ∃ m, CutAt ds k m ∧ (k = s'.out.length → m = ds.length) ∧
      ∀ (sizes : List ℕ) (last : ℕ) (later : List ℕ), sizes.length = m →
        (∀ size ∈ sizes, ∀ d ∈ ds, d.length ≤ size) →
        reads (sizes ++ last :: later) ⟨[], none, source⟩ =
          (ds.take m).map .ok ++
            .error (if k = (frames (ds.take m)).length then ioEOF else ioErrUnexpectedEOF) ::
              later.map fun _ => .error ioEOF := by
  obtain ⟨hout, hds⟩ := writeAll_ok hwrite
  rw [hempty, List.nil_append] at hout
  rw [hout] at hk hsource ⊢
  obtain ⟨m, tail, hcut, htake, htail⟩ := exists_cut hds hk
  refine ⟨m, hcut, fun hall => ?_, fun sizes last later hlen hsizes => ?_⟩
  · by_contra hne
    have hlt : m < ds.length := lt_of_le_of_ne hcut.le hne
    have hprefix : (frames (ds.take (m + 1))).length ≤ (frames ds).length := by
      conv_rhs => rw [← List.take_append_drop (m + 1) ds]
      rw [frames, frames, List.map_append, List.flatten_append, List.length_append]
      exact Nat.le_add_right _ _
    have := hcut.next hlt
    omega
  · have hholds : Holds ⟨[], none, source⟩ (frames (ds.take m) ++ tail) :=
      ⟨hsource.trans htake, .inl ⟨rfl, hclean⟩⟩
    have hend : endOf tail = if k = (frames (ds.take m)).length then ioEOF else ioErrUnexpectedEOF := by
      have hlens := congrArg List.length htake
      rw [List.length_take, List.length_append, min_eq_left hk] at hlens
      have hiff : tail = [] ↔ k = (frames (ds.take m)).length := by
        rw [← List.length_eq_zero_iff]
        omega
      rw [endOf]
      exact if_congr hiff rfl rfl
    rw [← hend]
    refine reads_frames htail last later ?_ (fun d hd => hds d (List.mem_of_mem_take hd))
      (fun size hs d hd => hsizes size hs d (List.mem_of_mem_take hd)) hholds
    rw [hlen, List.length_take, min_eq_left hcut.le]

section Sample

/-- A stream that takes and gives one byte at a time. -/
def sampleSink : Sink := ⟨[], fun _ => (1, none)⟩

/-- Two datagrams, of which the second is cut within its length field; the end comes with the last
byte. -/
theorem sample_framed_round_trip :
    ∃ s', (writeAll [[7, 8], [9]]).run sampleSink = (.ok (), s') ∧ s'.out = [0, 2, 7, 8, 0, 1, 9] ∧
      reads [2, 2, 2] ⟨[], none, [⟨[0], none⟩, ⟨[2, 7], none⟩, ⟨[], none⟩, ⟨[8, 0], some ioEOF⟩]⟩ =
        [.ok [7, 8], .error ioErrUnexpectedEOF, .error ioEOF] := by
  have hhealthy : sampleSink.Healthy := fun _ => ⟨Nat.one_pos, rfl⟩
  have hlen : ∀ d ∈ ([[7, 8], [9]] : List Bytes), d.length ≤ maxWireDatagram := by decide
  obtain ⟨s', hwrite⟩ := writeAll_of_healthy hhealthy hlen
  have hout : s'.out = [0, 2, 7, 8, 0, 1, 9] := (writeAll_ok hwrite).1
  have hclean : Clean [⟨[0], none⟩, ⟨[2, 7], none⟩, ⟨[], none⟩, ⟨[8, 0], some ioEOF⟩] :=
    .inl ⟨rfl, .inl ⟨rfl, .inl ⟨rfl, .inr ⟨rfl, rfl⟩⟩⟩⟩
  obtain ⟨m, hcut, -, hreads⟩ := framed_round_trip rfl hwrite (k := 5) (by rw [hout]; decide) hclean
    (by rw [hout]; rfl)
  have hm : m = 1 := by
    have hle : m ≤ 2 := hcut.le
    have hfits := hcut.fits
    have hnext := hcut.next
    interval_cases m
    · exact absurd (hnext (by decide)) (by decide)
    · rfl
    · exact absurd hfits (by decide)
  subst hm
  exact ⟨s', hwrite, hout, hreads [2] 2 [2] rfl (by decide)⟩

end Sample

end Swan.Session
