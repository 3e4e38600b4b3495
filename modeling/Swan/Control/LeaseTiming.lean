import Swan.Control.Actor

/-! # The timing of a lease

A lease of `e` seconds is renewed after 80 % of it, and a renewal that fails is tried again after half
of what is left, at most a minute, with a jitter of 5 % (`LeaseTimes`). `leaseTimes_iff`: this holds
for the expiries for which the product of the renewal delay fits in 64 bits, and while the clock does
not read a time before 1970, when the jitter is negative. -/

namespace Swan.Control

open Swan.Lib

/-- What a retry waits for, without the jitter and the floor. -/
def retryBase (remaining : ℤ) : ℤ := min (remaining.tdiv 2) (60 * second)

/-- The delays of a lease of `e` seconds, and of a retry when `r` is left. Factors that are not whole
are multiplied out: 0.8 is 8 of 10, 1.05 is 105 of 100. -/
structure LeaseTimes (now : Time) (e : UInt32) (r : Duration) : Prop where
  renew : 10 * leaseRenewDelay e = max (10 * second) (8 * (e.toNat * second))
  /-- The renewal comes before the deadline that is armed with it. -/
  renewed_in_time : 2 ≤ e → ∀ (a : Running) (c : AssignedConfig), a.state.assigned = some c →
    c.addressExpirySeconds = e → ∃ timer deadline,
      ((armLeaseTimer now).run a).2.leaseTimer = some timer ∧
      ((armLeaseTimer now).run a).2.leaseDeadline = some deadline ∧ timer < deadline
  retry_ge : max second (retryBase r) ≤ leaseRetryDelay now r
  retry_le : 100 * leaseRetryDelay now r ≤ max (100 * second) (105 * retryBase r + 100)
  retried_in_time : 22 * second < 10 * r → leaseRetryDelay now r < r

/-! ### The renewal -/

/-- The nanoseconds of the renewal delay before the floor, in 64 bits. -/
def renewNanos (e : ℕ) : ℕ := e * 8000000000 % 2 ^ 64 / 10

theorem leaseRenewDelay_eq (e : UInt32) :
    leaseRenewDelay e = max second (renewNanos e.toNat : ℤ) := by
  have hwrap : (e.toUInt64 * 1000000000 * 8 / 10).toNat = renewNanos e.toNat := by
    simp only [UInt64.toNat_div, UInt64.toNat_mul, UInt32.toNat_toUInt64, UInt64.reduceToNat,
      renewNanos]
    omega
  unfold leaseRenewDelay
  dsimp only
  rw [hwrap]
  split_ifs with h
  · exact (max_eq_left (le_of_lt h)).symm
  · exact (max_eq_right (not_lt.mp h)).symm

theorem renewNanos_iff {e : ℕ} (hlt : e < 2 ^ 32) :
    10 * max (1000000000 : ℤ) (renewNanos e : ℤ) =
        max (10 * 1000000000 : ℤ) (8 * ((e : ℤ) * 1000000000)) ↔
      e * 8000000000 < 2 ^ 64 := by
  unfold renewNanos
  by_cases hfits : e * 8000000000 < 2 ^ 64
  · have hdiv : e * 8000000000 / 10 = e * 800000000 := by omega
    rw [Nat.mod_eq_of_lt hfits, hdiv]
    push_cast
    omega
  · have hmod : e * 8000000000 % 2 ^ 64 = e * 8000000000 - 2 ^ 64 := by omega
    rw [hmod]
    simp only [hfits, iff_false]
    push_cast
    omega

theorem renewNanos_lt {e : ℕ} (h : 2 ≤ e) :
    max (1000000000 : ℤ) (renewNanos e : ℤ) < e * 1000000000 := by
  have hwrap : e * 8000000000 % 2 ^ 64 ≤ e * 8000000000 := Nat.mod_le _ _
  have hdiv : renewNanos e ≤ e * 800000000 := by
    unfold renewNanos
    omega
  omega

theorem renew_iff (e : UInt32) :
    10 * leaseRenewDelay e = max (10 * second) (8 * (e.toNat * second)) ↔
      e.toNat * 8000000000 < 2 ^ 64 := by
  rw [leaseRenewDelay_eq]
  exact renewNanos_iff e.toNat_lt

theorem leaseRenewDelay_lt {e : UInt32} (h : 2 ≤ e) : leaseRenewDelay e < e.toNat * second := by
  rw [leaseRenewDelay_eq]
  exact renewNanos_lt (UInt32.le_iff_toNat_le.mp h)

theorem renewed_in_time (now : Time) {e : UInt32} (h : 2 ≤ e) {a : Running} {c : AssignedConfig}
    (hc : a.state.assigned = some c) (he : c.addressExpirySeconds = e) : ∃ timer deadline,
      ((armLeaseTimer now).run a).2.leaseTimer = some timer ∧
      ((armLeaseTimer now).run a).2.leaseDeadline = some deadline ∧ timer < deadline := by
  have hne : c.addressExpirySeconds ≠ 0 := by
    intro h0
    rw [← he, h0] at h
    exact absurd h (by decide)
  have hrun : ((armLeaseTimer now).run a).2 = { a with
      leaseDeadline := some (now + c.addressExpirySeconds.toNat * second)
      leaseTimer := some (now + leaseRenewDelay c.addressExpirySeconds) } := by
    unfold armLeaseTimer
    rw [Eff.run_modify]
    simp only [hc, if_neg hne]
  refine ⟨_, _, by rw [hrun], by rw [hrun], ?_⟩
  rw [he]
  exact Int.add_lt_add_left (leaseRenewDelay_lt h) now

/-! ### The retries -/

theorem retryBase_nonneg {r : ℤ} (h : 0 < r) : 0 ≤ retryBase r := by
  have hhalf : 0 ≤ r.tdiv 2 := Int.tdiv_nonneg (le_of_lt h) (by decide)
  exact le_min hhalf (by decide)

theorem two_mul_retryBase_le {r : ℤ} (h : 0 < r) : 2 * retryBase r ≤ r := by
  have hhalf : retryBase r ≤ r.tdiv 2 := min_le_left _ _
  rw [Int.tdiv_eq_ediv_of_nonneg (le_of_lt h)] at hhalf
  omega

def retryJitter (now r : ℤ) : ℤ := now.tmod ((retryBase r).tdiv 20 + 1)

theorem leaseRetryDelay_eq {r : ℤ} (now : ℤ) (h : 0 < r) :
    leaseRetryDelay now r = max second (retryBase r + retryJitter now r) := by
  have hbase : (if r.tdiv 2 > 60 * second then 60 * second else r.tdiv 2) = retryBase r := by
    unfold retryBase
    split_ifs with hlong
    · exact (min_eq_right (le_of_lt hlong)).symm
    · exact (min_eq_left (not_lt.mp hlong)).symm
  have hpos : 0 ≤ (retryBase r).tdiv 20 := Int.tdiv_nonneg (retryBase_nonneg h) (by decide)
  have hjitter : randInt63n now ((retryBase r).tdiv 20 + 1) = retryJitter now r :=
    if_neg (by omega)
  unfold leaseRetryDelay
  dsimp only
  rw [hbase, hjitter]
  split_ifs with hshort
  · exact (max_eq_left (le_of_lt hshort)).symm
  · exact (max_eq_right (not_lt.mp hshort)).symm

theorem retryJitter_bounds {r : ℤ} (now : ℤ) (h : 0 < r) :
    20 * retryJitter now r ≤ retryBase r ∧ (0 ≤ now → 0 ≤ retryJitter now r) ∧
      (now < 0 → retryJitter now r ≤ 0) := by
  have hbase := retryBase_nonneg h
  have hpos : 0 ≤ (retryBase r).tdiv 20 := Int.tdiv_nonneg hbase (by decide)
  have hlt : retryJitter now r < (retryBase r).tdiv 20 + 1 := Int.tmod_lt_of_pos _ (by omega)
  have hdiv : (retryBase r).tdiv 20 * 20 ≤ retryBase r := by
    rw [Int.tdiv_eq_ediv_of_nonneg hbase]
    omega
  refine ⟨by omega, fun hnow => Int.tmod_nonneg _ hnow, fun hnow => ?_⟩
  have hneg : 0 ≤ (-now).tmod ((retryBase r).tdiv 20 + 1) := Int.tmod_nonneg _ (by omega)
  rw [Int.neg_tmod] at hneg
  exact Int.neg_nonneg.mp hneg

theorem retry_ge_iff {r : ℤ} (now : ℤ) (h : 0 < r) :
    max second (retryBase r) ≤ leaseRetryDelay now r ↔
      (now < 0 → retryBase r ≤ second ∨ ((retryBase r).tdiv 20 + 1) ∣ now) := by
  obtain ⟨-, hnonneg, hnonpos⟩ := retryJitter_bounds now h
  have hdvd : ((retryBase r).tdiv 20 + 1) ∣ now ↔ retryJitter now r = 0 :=
    Int.dvd_iff_tmod_eq_zero ..
  have hmax : max second (retryBase r) ≤ leaseRetryDelay now r ↔
      retryBase r ≤ second ∨ 0 ≤ retryJitter now r := by
    rw [leaseRetryDelay_eq now h, max_le_iff, and_iff_right (le_max_left _ _), le_max_iff]
    exact or_congr Iff.rfl (le_add_iff_nonneg_right _)
  rw [hmax, hdvd]
  constructor
  · intro hge hnow
    have hle := hnonpos hnow
    exact hge.imp id fun hge => by omega
  · intro hcond
    by_cases hnow : now < 0
    · exact (hcond hnow).imp id fun hzero => by omega
    · exact .inr (hnonneg (not_lt.mp hnow))

theorem retry_le {r : ℤ} (now : ℤ) (h : 0 < r) :
    100 * leaseRetryDelay now r ≤ max (100 * second) (105 * retryBase r + 100) := by
  obtain ⟨hup, -, -⟩ := retryJitter_bounds now h
  have hcore : ∀ s d j : ℤ, 20 * j ≤ d → 100 * max s (d + j) ≤ max (100 * s) (105 * d + 100) := by
    intro s d j hj
    omega
  rw [leaseRetryDelay_eq now h]
  exact hcore second _ _ hup

theorem retried_in_time {r : ℤ} (now : ℤ) (h : 0 < r) (hlong : 22 * second < 10 * r) :
    leaseRetryDelay now r < r := by
  obtain ⟨hup, -, -⟩ := retryJitter_bounds now h
  have hhalf := two_mul_retryBase_le h
  have hcore : ∀ s d j r : ℤ, 20 * j ≤ d → 2 * d ≤ r → 22 * s < 10 * r → 0 < r → 0 < s →
      max s (d + j) < r := by
    intro s d j r hj hd hs hr hpos
    omega
  rw [leaseRetryDelay_eq now h]
  exact hcore second _ _ r hup hhalf hlong h (by decide)

/-- **The delays of a lease are as documented** exactly if eight times the expiry in nanoseconds fits
in 64 bits, and the clock does not read a time before 1970 or the jitter does not show. -/
theorem leaseTimes_iff (now : Time) (e : UInt32) {r : Duration} (hr : 0 < r) :
    LeaseTimes now e r ↔ e.toNat * 8000000000 < 2 ^ 64 ∧
      (now < 0 → retryBase r ≤ second ∨ ((retryBase r).tdiv 20 + 1) ∣ now) := by
  constructor
  · intro h
    exact ⟨(renew_iff e).mp h.renew, (retry_ge_iff now hr).mp h.retry_ge⟩
  · rintro ⟨hfits, hclock⟩
    exact ⟨(renew_iff e).mpr hfits, fun h2 a c hc he => Control.renewed_in_time now h2 hc he,
      (retry_ge_iff now hr).mpr hclock, Control.retry_le now hr, Control.retried_in_time now hr⟩

theorem sample_leaseTimes : LeaseTimes 1700000000123456789 3600 (1000 * second) :=
  (leaseTimes_iff 1700000000123456789 3600 (by decide)).mpr
    ⟨by decide, fun h => absurd h (by decide)⟩

/-- A lease of 73 years is renewed after a second. -/
theorem long_lease_renewed_at_once : leaseRenewDelay 2305843010 = second ∧
    ¬LeaseTimes 1700000000123456789 2305843010 second := by
  have hdelay : leaseRenewDelay 2305843010 = second := by decide
  refine ⟨hdelay, fun h => ?_⟩
  have hrenew := h.renew
  rw [hdelay] at hrenew
  exact absurd hrenew (by decide)

end Swan.Control
