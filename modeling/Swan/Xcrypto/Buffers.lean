import Swan.Lib.Heap
import Swan.Xcrypto.Instance
import Swan.Xcrypto.Prepared

/-! # Prepared ciphers on buffers

The operations of a prepared cipher as they work on memory: the destination grows in place when it has
room, the modes write behind its contents, and the counter mode with CBC-MAC reads its own output and
the received tag again after it has written. The prepared HMAC is one state that every use resets.

`gives_sealTo` and `gives_openTo`: on inputs that keep clear of the room of the destination this is what the
operations on byte strings compute. `PreparedHMAC.answers_eq`: so it is for any sequence of uses of one
HMAC. `prepared_refines` puts the two beside the unprepared ones. -/

namespace Swan.Xcrypto.Buffers

open Swan.Lib

section Refinement

variable [Crypto]

/-! ### Ciphers -/

/-- The destination, longer by `n` bytes. -/
def growDst (dst : Slice) (n : ℕ) : Eff Heap Slice := grow dst n

def cbcSeal (p : PreparedEncryption) (dst iv plain : Slice) : Eff Heap Slice :=
  if plain.len % 16 ≠ 0 then
    Eff.fail (.errorf s!"xcrypto: AES-CBC plaintext length {plain.len} not a multiple of 16")
  else do
    let out ← growDst dst plain.len
    let ivBytes ← load iv
    let input ← load plain
    store (out.since dst.len) (Crypto.cbcEncrypt p.aesKey ivBytes input)
    pure out

def cbcOpenTo (p : PreparedEncryption) (dst iv ciphertext : Slice) : Eff Heap Slice :=
  if ciphertext.len % 16 ≠ 0 then
    Eff.fail (.errorf s!"xcrypto: AES-CBC ciphertext length {ciphertext.len} not a multiple of 16")
  else do
    let out ← growDst dst ciphertext.len
    let ivBytes ← load iv
    let input ← load ciphertext
    store (out.since dst.len) (Crypto.cbcDecrypt p.aesKey ivBytes input)
    pure out

def gcmSeal (p : PreparedEncryption) (dst iv aad plain : Slice) : Eff Heap Slice := do
  let ivBytes ← load iv
  let aadBytes ← load aad
  let input ← load plain
  let output := Crypto.gcmEncrypt p.alg.icvLen p.aesKey (p.salt ++ ivBytes) aadBytes input
  let out ← growDst dst output.length
  store (out.since dst.len) output
  pure out

/-- The plaintext of an authentic message. -/
def opened (dst : Slice) : Option Bytes → Eff Heap Slice
  | some output => do
    let out ← growDst dst output.length
    store (out.since dst.len) output
    pure out
  | none => Eff.fail (.wrapf "xcrypto: AES-GCM auth/open: "
      (.errorf "cipher: message authentication failed"))

def gcmOpenTo (p : PreparedEncryption) (dst iv aad ciphertext : Slice) : Eff Heap Slice := do
  let ivBytes ← load iv
  let aadBytes ← load aad
  let input ← load ciphertext
  opened dst (Crypto.gcmDecrypt p.alg.icvLen p.aesKey (p.salt ++ ivBytes) aadBytes input)

def ccmSeal (p : PreparedEncryption) (dst iv aad plain : Slice) : Eff Heap Slice := do
  let block := Crypto.aes p.aesKey
  let ivBytes ← load iv
  let nonce := p.salt ++ ivBytes
  let aadBytes ← load aad
  let message ← load plain
  let stream := ctrStream block (ccmCounterIV nonce) (16 + plain.len)
  let fullTag := xorBytes (ccmMAC block nonce aadBytes message p.alg.icvLen) (stream.take 16)
  let out ← growDst dst (plain.len + p.alg.icvLen)
  let input ← load plain
  store (out.since dst.len) (xorBytes input (stream.drop 16))
  store (out.since (dst.len + plain.len)) (fullTag.take p.alg.icvLen)
  pure out

/-- The comparison of the tags, after the plaintext has been written. -/
def checkTag (p : PreparedEncryption) (nonce tag : Bytes) (aad out : Slice) (base : ℕ) :
    Eff Heap Slice := do
  let aadBytes ← load aad
  let message ← load (out.since base)
  let expected := ccmMAC (Crypto.aes p.aesKey) nonce aadBytes message p.alg.icvLen
  if tag ≠ expected.take p.alg.icvLen then Eff.fail (.errorf "xcrypto: AES-CCM auth failed")
  else pure out

def ccmOpenTo (p : PreparedEncryption) (dst iv aad ciphertext : Slice) : Eff Heap Slice :=
  if ciphertext.len < p.alg.icvLen then
    Eff.fail (.errorf s!"xcrypto: AES-CCM ciphertext too short: {ciphertext.len}")
  else do
    let dataLen := ciphertext.len - p.alg.icvLen
    let ivBytes ← load iv
    let nonce := p.salt ++ ivBytes
    let stream := ctrStream (Crypto.aes p.aesKey) (ccmCounterIV nonce) (16 + dataLen)
    let out ← growDst dst dataLen
    let input ← load (ciphertext.upTo dataLen (Nat.sub_le _ _))
    store (out.since dst.len) (xorBytes input (stream.drop 16))
    let received ← load (ciphertext.since dataLen)
    checkTag p nonce (xorBytes received (stream.take 16)) aad out dst.len

def checkIV (p : PreparedEncryption) (iv : Slice) : Eff Heap Unit :=
  if iv.len ≠ p.alg.ivLen then
    Eff.fail (.errorf s!"xcrypto: {p.alg.name} IV length {iv.len}, want {p.alg.ivLen}")
  else pure ()

/-- Append the ciphertext, and the tag of an AEAD mode, to `dst`. -/
def sealTo (p : PreparedEncryption) (dst iv aad plain : Slice) : Eff Heap Slice := do
  checkIV p iv
  if !p.alg.aead then cbcSeal p dst iv plain
  else if p.alg.isCCM then ccmSeal p dst iv aad plain
  else gcmSeal p dst iv aad plain

/-- Append the plaintext to `dst`. -/
def openTo (p : PreparedEncryption) (dst iv aad ciphertext : Slice) : Eff Heap Slice := do
  checkIV p iv
  if !p.alg.aead then cbcOpenTo p dst iv ciphertext
  else if p.alg.isCCM then ccmOpenTo p dst iv aad ciphertext
  else gcmOpenTo p dst iv aad ciphertext

/-! ### What they write -/

/-- The operation returns a slice with the given contents, or the given error, and changes no slice
that keeps clear of the room of the destination. -/
def Gives (x : Eff Heap Slice) (dst : Slice) (h : Heap) (r : Except Err Bytes) : Prop :=
  x.wp (fun res h' => (res.map fun out => out.bytes h') = r ∧
    ∀ s : Slice, s.Live h → s.Clear dst → s.bytes h' = s.bytes h) h

structure Input (s dst : Slice) (h : Heap) : Prop where
  live : s.Live h
  clear : s.Clear dst

omit [Crypto] in
theorem Input.upTo {s dst : Slice} {h : Heap} (hs : Input s dst h) {n : ℕ} (hn : n ≤ s.len) :
    Input (s.upTo n hn) dst h :=
  ⟨hs.live, fun i hi => hs.clear i (hi.trans_le hn)⟩

omit [Crypto] in
theorem Input.since {s dst : Slice} {h : Heap} (hs : Input s dst h) {n : ℕ} (hn : n ≤ s.len) :
    Input (s.since n) dst h := by
  refine ⟨?_, fun i hi j hj hj' heq => ?_⟩
  · have hlive : s.start + s.cap ≤ h.next := hs.live
    have hle := s.len_le
    change s.start + n + (s.cap - n) ≤ h.next
    omega
  · have hlt : i < s.len - n := hi
    exact hs.clear (n + i) (by omega) j hj hj' ((Nat.add_assoc _ _ _).symm.trans heq)

section

variable {p : PreparedEncryption} {dst iv aad plain ciphertext : Slice} {h : Heap}

omit [Crypto] in
theorem gives_fail (e : Err) : Gives (Eff.fail e) dst h (.error e) := ⟨rfl, fun _ _ _ => rfl⟩

omit [Crypto] in
theorem gives_written {x : Eff Heap Slice} {n : ℕ} {out : Slice} {h' : Heap} {b : Bytes}
    (hg : Grown h dst n out h') (hb : b.length = n)
    (hrun : x.run h = (.ok out, h'.write (out.start + dst.len) b)) :
    Gives x dst h (.ok (dst.bytes h ++ b)) :=
  Eff.wp_run hrun
    ⟨congrArg Except.ok (hg.bytes_write hb), fun _ hlive hclear => hg.bytes_other hlive hclear hb.le⟩

theorem gives_cbcSeal (hdst : dst.Live h) (hiv : Input iv dst h) (hplain : Input plain dst h) :
    Gives (cbcSeal p dst iv plain) dst h
      (p.cbcSeal (dst.bytes h) (iv.bytes h) (plain.bytes h)) := by
  rw [cbcSeal, PreparedEncryption.cbcSeal, plain.length_bytes]
  by_cases hwhole : plain.len % 16 = 0
  · rw [if_neg (not_not.mpr hwhole), if_neg (not_not.mpr hwhole)]
    obtain ⟨out, h', hrun, hg⟩ := grown_grow dst plain.len hdst
    refine gives_written hg ?_ ?_
    · rw [Crypto.length_cbcEncrypt, plain.length_bytes]
    · rw [← hg.bytes_same hiv.live, ← hg.bytes_same hplain.live]
      exact Eff.run_bind_of_ok hrun
  · rw [if_pos hwhole, if_pos hwhole]
    exact gives_fail _

/-- What is assumed of the decryption in CBC mode: it keeps the length. -/
def CbcKeepsLength : Prop :=
  ∀ key iv c : Bytes, c.length % 16 = 0 → (Crypto.cbcDecrypt key iv c).length = c.length

theorem gives_cbcOpenTo (hcbc : CbcKeepsLength) (hdst : dst.Live h) (hiv : Input iv dst h)
    (hct : Input ciphertext dst h) :
    Gives (cbcOpenTo p dst iv ciphertext) dst h
      (p.cbcOpenTo (dst.bytes h) (iv.bytes h) (ciphertext.bytes h)) := by
  rw [cbcOpenTo, PreparedEncryption.cbcOpenTo, ciphertext.length_bytes]
  by_cases hwhole : ciphertext.len % 16 = 0
  · rw [if_neg (not_not.mpr hwhole), if_neg (not_not.mpr hwhole)]
    obtain ⟨out, h', hrun, hg⟩ := grown_grow dst ciphertext.len hdst
    refine gives_written hg ?_ ?_
    · rw [hcbc _ _ _ (by rwa [ciphertext.length_bytes]), ciphertext.length_bytes]
    · rw [← hg.bytes_same hiv.live, ← hg.bytes_same hct.live]
      exact Eff.run_bind_of_ok hrun
  · rw [if_pos hwhole, if_pos hwhole]
    exact gives_fail _

theorem gives_gcmSeal (hdst : dst.Live h) :
    Gives (gcmSeal p dst iv aad plain) dst h
      (p.gcmSeal (dst.bytes h) (iv.bytes h) (aad.bytes h) (plain.bytes h)) := by
  obtain ⟨out, h', hrun, hg⟩ := grown_grow dst (Crypto.gcmEncrypt p.alg.icvLen p.aesKey
    (p.salt ++ iv.bytes h) (aad.bytes h) (plain.bytes h)).length hdst
  exact gives_written hg rfl (Eff.run_bind_of_ok hrun)

theorem gives_gcmOpenTo (hdst : dst.Live h) :
    Gives (gcmOpenTo p dst iv aad ciphertext) dst h
      (p.gcmOpenTo (dst.bytes h) (iv.bytes h) (aad.bytes h) (ciphertext.bytes h)) := by
  rw [PreparedEncryption.gcmOpenTo]
  have hload : (gcmOpenTo p dst iv aad ciphertext).run h = (opened dst (Crypto.gcmDecrypt p.alg.icvLen
      p.aesKey (p.salt ++ iv.bytes h) (aad.bytes h) (ciphertext.bytes h))).run h := rfl
  cases hout : Crypto.gcmDecrypt p.alg.icvLen p.aesKey (p.salt ++ iv.bytes h) (aad.bytes h)
      (ciphertext.bytes h) with
  | none =>
    rw [hout] at hload
    exact Eff.wp_run hload ⟨rfl, fun _ _ _ => rfl⟩
  | some output =>
    rw [hout] at hload
    obtain ⟨out, h', hrun, hg⟩ := grown_grow dst output.length hdst
    exact gives_written hg rfl (hload.trans (Eff.run_bind_of_ok hrun))

theorem gives_ccmSeal (hdst : dst.Live h) (hplain : Input plain dst h) :
    Gives (ccmSeal p dst iv aad plain) dst h
      (p.ccmSeal (dst.bytes h) (iv.bytes h) (aad.bytes h) (plain.bytes h)) := by
  obtain ⟨out, h', hrun, hg⟩ := grown_grow dst (plain.len + p.alg.icvLen) hdst
  set stream := ctrStream (Crypto.aes p.aesKey) (ccmCounterIV (p.salt ++ iv.bytes h)) (16 + plain.len)
    with hstream
  set mac := ccmMAC (Crypto.aes p.aesKey) (p.salt ++ iv.bytes h) (aad.bytes h) (plain.bytes h) p.alg.icvLen
    with hmac
  have hs : stream.length = 16 + plain.len := length_ctrStream _ _ _
  have hi := p.alg.icvLen_le
  have hdata : (xorBytes (plain.bytes h) (stream.drop 16)).length = plain.len := by
    rw [length_xorBytes, plain.length_bytes, List.length_drop, hs]
    omega
  have htag : ((xorBytes mac (stream.take 16)).take p.alg.icvLen).length = p.alg.icvLen := by
    rw [List.length_take, length_xorBytes, length_ccmMAC, List.length_take, hs]
    omega
  rw [PreparedEncryption.ccmSeal, plain.length_bytes]
  refine gives_written hg ?_ ?_
  · rw [List.length_append, hdata, htag]
  · have hrun' : (ccmSeal p dst iv aad plain).run h = (.ok out,
        (h'.write (out.start + dst.len) (xorBytes (plain.bytes h') (stream.drop 16))).write
          (out.start + (dst.len + plain.len)) ((xorBytes mac (stream.take 16)).take p.alg.icvLen)) := by
      simp only [ccmSeal, run_load_bind, growDst, Eff.run_bind_of_ok hrun, run_store_bind, Eff.run_pure,
        Slice.since, hstream, hmac]
    rw [hrun', hg.bytes_same hplain.live, ← Heap.write_append, hdata, Nat.add_assoc]

theorem run_checkTag (p : PreparedEncryption) (nonce tag : Bytes) (aad out : Slice) (base : ℕ) (h : Heap) :
    (checkTag p nonce tag aad out base).run h =
      (if tag ≠ (ccmMAC (Crypto.aes p.aesKey) nonce (aad.bytes h) ((out.since base).bytes h)
          p.alg.icvLen).take p.alg.icvLen then .error (.errorf "xcrypto: AES-CCM auth failed")
        else .ok out, h) := by
  have hload : (checkTag p nonce tag aad out base).run h =
      (if tag ≠ (ccmMAC (Crypto.aes p.aesKey) nonce (aad.bytes h) ((out.since base).bytes h)
          p.alg.icvLen).take p.alg.icvLen then Eff.fail (.errorf "xcrypto: AES-CCM auth failed")
        else pure out : Eff Heap Slice).run h := rfl
  rw [hload]
  split_ifs <;> rfl

theorem gives_ccmOpenTo (hdst : dst.Live h) (haad : Input aad dst h) (hct : Input ciphertext dst h) :
    Gives (ccmOpenTo p dst iv aad ciphertext) dst h
      (p.ccmOpenTo (dst.bytes h) (iv.bytes h) (aad.bytes h) (ciphertext.bytes h)) := by
  rw [ccmOpenTo, PreparedEncryption.ccmOpenTo, ciphertext.length_bytes]
  by_cases hshort : ciphertext.len < p.alg.icvLen
  · rw [if_pos hshort, if_pos hshort]
    exact gives_fail _
  rw [if_neg hshort, if_neg hshort]
  have hle : ciphertext.len - p.alg.icvLen ≤ ciphertext.len := Nat.sub_le _ _
  obtain ⟨out, h', hrun, hg⟩ := grown_grow dst (ciphertext.len - p.alg.icvLen) hdst
  set stream := ctrStream (Crypto.aes p.aesKey) (ccmCounterIV (p.salt ++ iv.bytes h))
    (16 + (ciphertext.len - p.alg.icvLen)) with hstream
  set data := xorBytes ((ciphertext.bytes h).take (ciphertext.len - p.alg.icvLen)) (stream.drop 16)
    with hdata
  have hs : stream.length = 16 + (ciphertext.len - p.alg.icvLen) := length_ctrStream _ _ _
  have hlen : data.length = ciphertext.len - p.alg.icvLen := by
    rw [length_xorBytes, List.length_take, ciphertext.length_bytes, List.length_drop, hs]
    omega
  -- what is read again after the plaintext has been written
  have hinput : (ciphertext.upTo _ hle).bytes h' = (ciphertext.bytes h).take _ :=
    (hg.bytes_same (hct.upTo hle).live).trans (ciphertext.bytes_upTo h hle)
  have hreceived : (ciphertext.since (ciphertext.len - p.alg.icvLen)).bytes
      (h'.write (out.start + dst.len) data) = (ciphertext.bytes h).drop _ :=
    (hg.bytes_other (hct.since hle).live (hct.since hle).clear hlen.le).trans (ciphertext.bytes_since h hle)
  have haad' : aad.bytes (h'.write (out.start + dst.len) data) = aad.bytes h :=
    hg.bytes_other haad.live haad.clear hlen.le
  have hmessage : (out.since dst.len).bytes (h'.write (out.start + dst.len) data) = data := by
    rw [out.bytes_since _ (by rw [hg.len]; omega), hg.bytes_write hlen,
      List.drop_left' (dst.length_bytes h)]
  set h₂ := h'.write (out.start + dst.len) data with hh₂
  have hrun' : (do
      let ivBytes ← load iv
      let out ← growDst dst (ciphertext.len - p.alg.icvLen)
      let input ← load (ciphertext.upTo _ hle)
      store (out.since dst.len) (xorBytes input ((ctrStream (Crypto.aes p.aesKey)
        (ccmCounterIV (p.salt ++ ivBytes)) (16 + (ciphertext.len - p.alg.icvLen))).drop 16))
      let received ← load (ciphertext.since (ciphertext.len - p.alg.icvLen))
      checkTag p (p.salt ++ ivBytes) (xorBytes received ((ctrStream (Crypto.aes p.aesKey)
        (ccmCounterIV (p.salt ++ ivBytes)) (16 + (ciphertext.len - p.alg.icvLen))).take 16)) aad out
        dst.len : Eff Heap Slice).run h =
      (checkTag p (p.salt ++ iv.bytes h) (xorBytes ((ciphertext.bytes h).drop
        (ciphertext.len - p.alg.icvLen)) (stream.take 16)) aad out dst.len).run h₂ := by
    simp only [run_load_bind, growDst, Eff.run_bind_of_ok hrun, run_store_bind]
    rw [← hreceived, hh₂, hdata, ← hinput]
    rfl
  refine Eff.wp_of_run_eq hrun' ?_
  have hother : ∀ s : Slice, s.Live h → s.Clear dst → s.bytes h₂ = s.bytes h :=
    fun s hlive hclear => hg.bytes_other hlive hclear hlen.le
  have hcheck : (checkTag p (p.salt ++ iv.bytes h) (xorBytes ((ciphertext.bytes h).drop
      (ciphertext.len - p.alg.icvLen)) (stream.take 16)) aad out dst.len).run h₂ = _ :=
    run_checkTag _ _ _ _ _ _ _
  rw [haad', hmessage] at hcheck
  by_cases htag : xorBytes ((ciphertext.bytes h).drop (ciphertext.len - p.alg.icvLen)) (stream.take 16) =
      (ccmMAC (Crypto.aes p.aesKey) (p.salt ++ iv.bytes h) (aad.bytes h) data p.alg.icvLen).take
        p.alg.icvLen
  · rw [if_neg (not_not.mpr htag)] at hcheck ⊢
    exact Eff.wp_run hcheck ⟨congrArg Except.ok (hg.bytes_write hlen), hother⟩
  · rw [if_pos htag] at hcheck ⊢
    exact Eff.wp_run hcheck ⟨rfl, hother⟩

omit [Crypto] in
theorem run_checkIV_bind (f : Unit → Eff Heap Slice) :
    (checkIV p iv >>= f).run h = (Eff.lift (p.checkIV (iv.bytes h)) >>= f).run h := by
  rw [checkIV, PreparedEncryption.checkIV, iv.length_bytes]
  split_ifs <;> rfl

theorem gives_sealTo (hdst : dst.Live h) (hiv : Input iv dst h) (hplain : Input plain dst h) :
    Gives (sealTo p dst iv aad plain) dst h
      (p.sealTo (dst.bytes h) (iv.bytes h) (aad.bytes h) (plain.bytes h)) := by
  refine Eff.wp_of_run_eq (run_checkIV_bind _) ?_
  rw [PreparedEncryption.sealTo]
  cases p.checkIV (iv.bytes h) with
  | error e => exact gives_fail e
  | ok u =>
    refine Eff.wp_of_run_eq (Eff.run_bind_of_ok (Eff.run_lift _ _)) ?_
    rw [ok_bind]
    by_cases haead : (!p.alg.aead) = true
    · rw [if_pos haead, if_pos haead]
      exact gives_cbcSeal hdst hiv hplain
    rw [if_neg haead, if_neg haead]
    by_cases hccm : p.alg.isCCM = true
    · rw [if_pos hccm, if_pos hccm]
      exact gives_ccmSeal hdst hplain
    · rw [if_neg hccm, if_neg hccm]
      exact gives_gcmSeal hdst

theorem gives_openTo (hcbc : CbcKeepsLength) (hdst : dst.Live h) (hiv : Input iv dst h)
    (haad : Input aad dst h) (hct : Input ciphertext dst h) :
    Gives (openTo p dst iv aad ciphertext) dst h
      (p.openTo (dst.bytes h) (iv.bytes h) (aad.bytes h) (ciphertext.bytes h)) := by
  refine Eff.wp_of_run_eq (run_checkIV_bind _) ?_
  rw [PreparedEncryption.openTo]
  cases p.checkIV (iv.bytes h) with
  | error e => exact gives_fail e
  | ok u =>
    refine Eff.wp_of_run_eq (Eff.run_bind_of_ok (Eff.run_lift _ _)) ?_
    rw [ok_bind]
    by_cases haead : (!p.alg.aead) = true
    · rw [if_pos haead, if_pos haead]
      exact gives_cbcOpenTo hcbc hdst hiv hct
    rw [if_neg haead, if_neg haead]
    by_cases hccm : p.alg.isCCM = true
    · rw [if_pos hccm, if_pos hccm]
      exact gives_ccmOpenTo hdst haad hct
    · rw [if_neg hccm, if_neg hccm]
      exact gives_gcmOpenTo hdst

end

/-! ### The HMAC -/

/-- An HMAC state: the key and what has been written since the last reset. -/
structure Hmac where
  hash : HashKind
  key : Bytes
  written : Bytes
  deriving DecidableEq, Repr

namespace Hmac

def reset : Eff Hmac Unit := Eff.modify fun m => { m with written := [] }

def write (b : Bytes) : Eff Hmac Unit := Eff.modify fun m => { m with written := m.written ++ b }

def sum : Eff Hmac Bytes := do
  let m ← Eff.get
  pure (Crypto.hmac m.hash m.key m.written)

end Hmac

/-- An integrity algorithm whose HMAC state has been keyed once. -/
structure PreparedHMAC where
  outputLen : ℕ
  h : Hmac
  deriving DecidableEq, Repr

/-- Bind the key and one reusable HMAC state. -/
def prepare (i : Integrity) (key : Bytes) : Except Err PreparedHMAC :=
  match i.newHMAC with
  | none => .error (.errorf "xcrypto: no integrity transform (AEAD carries its own tag)")
  | some hash =>
    if key.length ≠ i.keyLen then
      .error (.errorf s!"xcrypto: integrity key length {key.length}, want {i.keyLen}")
    else .ok ⟨i.outputLen, ⟨hash, key, []⟩⟩

namespace PreparedHMAC

def onHmac {α : Type} (x : Eff Hmac α) : Eff PreparedHMAC α :=
  Eff.zoom PreparedHMAC.h (fun m p => { p with h := m }) x

/-- The truncated ICV of a message. -/
def sign (msg : Bytes) : Eff PreparedHMAC Bytes := do
  onHmac Hmac.reset
  onHmac (Hmac.write msg)
  let got ← onHmac Hmac.sum
  let p ← Eff.get
  pure (got.take p.outputLen)

def verify (msg icv : Bytes) : Eff PreparedHMAC Bool := do
  match ← (sign msg).attempt with
  | .error _ => pure false
  | .ok got => pure (decide (got.length = icv.length ∧ got = icv))

/-- One use of a prepared HMAC. -/
inductive Use where
  | sign (msg : Bytes)
  | verify (msg icv : Bytes)
  deriving DecidableEq, Repr

inductive Answer where
  | icv (r : Except Err Bytes)
  | verdict (b : Bool)

def use (p : PreparedHMAC) : Use → Answer × PreparedHMAC
  | .sign msg => (.icv ((sign msg).run p).1, ((sign msg).run p).2)
  | .verify msg icv => (.verdict (((verify msg icv).run p).1.toOption.getD false), ((verify msg icv).run p).2)

def answers : PreparedHMAC → List Use → List Answer
  | _, [] => []
  | p, u :: us => (p.use u).1 :: answers (p.use u).2 us

/-- The answer of the algorithm without a prepared state. -/
def plainAnswer (i : Integrity) (key : Bytes) : Use → Answer
  | .sign msg => .icv (i.sign key msg)
  | .verify msg icv => .verdict (i.verify key msg icv)

/-- The state belongs to an algorithm and a key; what has been written to it may be anything. -/
structure Keyed (i : Integrity) (key : Bytes) (p : PreparedHMAC) : Prop where
  newHMAC : i.newHMAC = some p.h.hash
  key_eq : p.h.key = key
  keyLen : key.length = i.keyLen
  outputLen : p.outputLen = i.outputLen

section

variable {i : Integrity} {key : Bytes} {p : PreparedHMAC}

omit [Crypto] in
theorem keyed_of_prepare (h : prepare i key = .ok p) : Keyed i key p := by
  unfold prepare at h
  split at h
  · cases h
  · rename_i hash hhash
    split_ifs at h with hkey
    obtain rfl := Except.ok.inj h
    exact ⟨hhash, rfl, not_not.mp hkey, rfl⟩

def holding (p : PreparedHMAC) (msg : Bytes) : PreparedHMAC := { p with h := { p.h with written := msg } }

theorem run_sign (hp : Keyed i key p) (msg : Bytes) :
    (sign msg).run p = (i.sign key msg, p.holding msg) := by
  have hrun : (sign msg).run p =
      (.ok ((Crypto.hmac p.h.hash p.h.key msg).take p.outputLen), p.holding msg) := rfl
  simp only [hrun, Integrity.sign, hp.newHMAC, if_neg (not_not.mpr hp.keyLen), hp.key_eq, hp.outputLen]

theorem run_verify (hp : Keyed i key p) (msg icv : Bytes) :
    (verify msg icv).run p = (.ok (i.verify key msg icv), p.holding msg) := by
  have hsign := run_sign hp msg
  rw [Integrity.verify]
  cases hs : i.sign key msg with
  | error e =>
    simp only [Integrity.sign, hp.newHMAC, if_neg (not_not.mpr hp.keyLen)] at hs
    cases hs
  | ok got =>
    rw [hs] at hsign
    rw [verify, Eff.run_bind_of_ok (Eff.run_attempt_of_ok hsign)]
    have hboth : (got.length = icv.length ∧ got = icv) ↔ got = icv := by
      constructor
      · exact fun h => h.2
      · rintro rfl
        exact ⟨rfl, rfl⟩
    simp only [Eff.run_pure, hboth]

/-- **One use.** -/
theorem use_eq (hp : Keyed i key p) (u : Use) :
    (p.use u).1 = plainAnswer i key u ∧ Keyed i key (p.use u).2 := by
  cases u with
  | sign msg =>
    rw [use, run_sign hp]
    exact ⟨rfl, hp.newHMAC, hp.key_eq, hp.keyLen, hp.outputLen⟩
  | verify msg icv =>
    rw [use, run_verify hp]
    exact ⟨rfl, hp.newHMAC, hp.key_eq, hp.keyLen, hp.outputLen⟩

/-- **Any sequence of uses.** -/
theorem answers_eq (us : List Use) : ∀ {p : PreparedHMAC}, Keyed i key p →
    p.answers us = us.map (plainAnswer i key) := by
  induction us with
  | nil => exact fun _ => rfl
  | cons u us ih =>
    intro p hp
    obtain ⟨hanswer, hnext⟩ := use_eq hp u
    rw [answers, hanswer, ih hnext, List.map_cons]

end

end PreparedHMAC

/-! ### Refinement -/

omit [Crypto] in
theorem saltLen_of_not_aead {transformID keyLen : UInt16} {a : EncryptionAlg}
    (h : newEncryption transformID keyLen = .ok a) (haead : a.aead = false) : a.saltLen = 0 := by
  unfold newEncryption at h
  split_ifs at h <;> obtain rfl := Except.ok.inj h <;> first | rfl | cases haead

theorem newCipher_of_length {key : Bytes} (h : key.length = 16 ∨ key.length = 32) :
    newCipher key = .ok (Crypto.aes key) := by
  rw [newCipher, if_pos]
  omega

theorem exists_prepare {transformID keyLen : UInt16} {a : EncryptionAlg}
    (h : newEncryption transformID keyLen = .ok a) {key : Bytes} (hkey : key.length = a.keyLen) :
    ∃ p, a.prepare key = .ok p := by
  have haes := a.transformKeyLen_aes
  have hlen := a.keyLen_eq
  have hcut : newCipher (key.take a.transformKeyLen) = .ok (Crypto.aes (key.take a.transformKeyLen)) :=
    newCipher_of_length (by rw [List.length_take]; omega)
  rw [EncryptionAlg.prepare, if_neg (not_not.mpr hkey)]
  cases haead : a.aead with
  | false =>
    have hsalt := saltLen_of_not_aead h haead
    exact ⟨_, by rw [newCipher_of_length (show key.length = 16 ∨ key.length = 32 by omega)]; rfl⟩
  | true =>
    cases hccm : a.isCCM with
    | true => exact ⟨_, by rw [hcut]; rfl⟩
    | false =>
      simp only [EncryptionAlg.splitAEADKey, hcut, Bool.not_true, Bool.false_eq_true, if_false, ok_bind]
      exact ⟨_, rfl⟩

omit [Crypto] in
theorem PreparedHMAC.exists_prepare {i : Integrity} (hi : i.newHMAC.isSome) {key : Bytes}
    (hkey : key.length = i.keyLen) : ∃ p, prepare i key = .ok p := by
  obtain ⟨hash, hhash⟩ := Option.isSome_iff_exists.mp hi
  exact ⟨⟨i.outputLen, ⟨hash, key, []⟩⟩, by simp only [prepare, hhash, if_neg (not_not.mpr hkey)]⟩

/-- **Prepared ciphers refine the plain ones**, for every destination and every history. -/
theorem prepared_refines (hcbc : CbcKeepsLength) {transformID keyLen integID : UInt16}
    {a : EncryptionAlg} {i : Integrity} (ha : newEncryption transformID keyLen = .ok a)
    (hi : newIntegrity integID = .ok i) :
    (∀ key : Bytes, key.length = a.keyLen → ∃ p, a.prepare key = .ok p ∧
      ∀ (h : Heap) (dst iv aad input : Slice),
        dst.Live h → Input iv dst h → Input aad dst h → Input input dst h →
          Gives (sealTo p dst iv aad input) dst h
            ((dst.bytes h ++ ·) <$> a.seal' key (iv.bytes h) (aad.bytes h) (input.bytes h)) ∧
          Gives (openTo p dst iv aad input) dst h
            ((dst.bytes h ++ ·) <$> a.open' key (iv.bytes h) (aad.bytes h) (input.bytes h))) ∧
    ∀ key : Bytes, key.length = i.keyLen → i.transformID ≠ transformIntegrityNone →
      ∃ p, prepare i key = .ok p ∧
        ∀ us, p.answers us = us.map (PreparedHMAC.plainAnswer i key) := by
  constructor
  · intro key hkey
    obtain ⟨p, hp⟩ := exists_prepare ha hkey
    refine ⟨p, hp, fun h dst iv aad input hdst hiv haad hinput => ?_⟩
    rw [← PreparedEncryption.sealTo_eq hp, ← PreparedEncryption.openTo_eq hp]
    exact ⟨gives_sealTo hdst hiv hinput, gives_openTo hcbc hdst hiv haad hinput⟩
  · intro key hkey hid
    have hsome : i.newHMAC.isSome := by
      unfold newIntegrity at hi
      split_ifs at hi with hnone <;> obtain rfl := Except.ok.inj hi
      · exact absurd hnone hid
      all_goals rfl
    obtain ⟨p, hp⟩ := PreparedHMAC.exists_prepare hsome hkey
    exact ⟨p, hp, fun us => PreparedHMAC.answers_eq us (PreparedHMAC.keyed_of_prepare hp)⟩

end Refinement

section Sample

attribute [local instance] plainCrypto

theorem plain_cbcKeepsLength : CbcKeepsLength := fun _ _ _ _ => rfl

/-- A destination of 2 bytes with room for 3 more; the input lies after it. -/
theorem sample_prepared_refines :
    ∃ a, newEncryption transformEncryptionAESGCM16 16 = .ok a ∧ ∃ p, a.prepare (List.replicate 20 1) = .ok p ∧
      ∀ h : Heap, h.next = 20 →
        Gives (sealTo p ⟨0, 2, 5, by decide⟩ ⟨5, 8, 8, le_rfl⟩ ⟨0, 2, 5, by decide⟩ ⟨13, 7, 7, le_rfl⟩)
          ⟨0, 2, 5, by decide⟩ h ((h.read 0 2 ++ ·) <$>
            a.seal' (List.replicate 20 1) (h.read 5 8) (h.read 0 2) (h.read 13 7)) := by
  have hi : newIntegrity transformIntegrityNone = .ok ⟨0, 0, 0, none, rfl, le_rfl⟩ := rfl
  refine ⟨_, rfl, ?_⟩
  obtain ⟨p, hp, hall⟩ := (prepared_refines plain_cbcKeepsLength
    (show newEncryption transformEncryptionAESGCM16 16 = .ok _ from rfl) hi).1 (List.replicate 20 1) rfl
  refine ⟨p, hp, fun h hnext => (hall h _ _ _ _ ?_ ⟨?_, ?_⟩ ⟨?_, ?_⟩ ⟨?_, ?_⟩).1⟩
  all_goals
    first
      | exact fun i hi j hj hj' heq => absurd heq (by simp only [Nat.zero_add] at *; omega)
      | (rw [Slice.Live, hnext]; decide)

end Sample

end Swan.Xcrypto.Buffers
