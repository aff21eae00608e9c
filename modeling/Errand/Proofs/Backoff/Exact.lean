import Errand.Proofs.Backoff.Jitter
import Errand.Proofs.Duration.Nanoseconds

/-!
Backing off by whole factors is exact. Powers of a whole number are exact while they are below
`2 ^ 53` (`pow_ofNat`), so three roundings lead from a first delay to the double that is its
multiple (`near_product`), and two to the double that is the cap. Up to `2 ^ 20` seconds three
roundings are less than half a nanosecond, and three and two are less than a whole one. So the
double stands for the multiple itself (`ofSeconds?_product`), and reaches the cap only if the
multiple does (`le_nanos_of_le_product`). `delay_exact` is what comes of it.
-/

set_option autoImplicit false

namespace Errand

namespace Binary64

-- Both are too great to be written out.
attribute [local irreducible] one overflow

theorem mul_whole {m n : ℕ} (hlt : m * n < 2 ^ 53) :
    (finite false (m * one)).mul (finite false (n * one)) = finite false (m * n * one) := by
  rw [mul_finite, show m * one * (n * one) = m * n * one * one by ring]
  exact ofUnits_of_fits false one_pos (fits_of_lt hlt).mul_one (mul_one_lt_overflow hlt)

/-- Squares are taken only as far as they are used, so none exceeds the power. -/
theorem powAux_whole {m n : ℕ} (k : ℕ) (hm : 1 ≤ m) (hn : 1 ≤ n) (hlt : m * n ^ k < 2 ^ 53) :
    powAux (finite false (m * one)) (finite false (n * one)) k
      = finite false (m * n ^ k * one) := by
  induction k using Nat.strong_induction_on generalizing m n with
  | _ k ih =>
    have hpow {j : ℕ} (hj : j ≤ k) : m * n ^ j < 2 ^ 53 :=
      (Nat.mul_le_mul_left m (Nat.pow_le_pow_right hn hj)).trans_lt hlt
    -- What is left to multiply by, once the lowest digit of the exponent is used.
    obtain ⟨m', hm', hacc, hrest⟩ : ∃ m', 1 ≤ m' ∧
        (if k % 2 = 1 then (finite false (m * one)).mul (finite false (n * one))
          else finite false (m * one)) = finite false (m' * one) ∧
        m' * (n * n) ^ (k / 2) = m * n ^ k := by
      rcases Nat.mod_two_eq_zero_or_one k with heven | hodd
      · refine ⟨m, hm, if_neg (by omega), ?_⟩
        rw [← pow_two, ← pow_mul, Nat.mul_div_cancel' (Nat.dvd_of_mod_eq_zero heven)]
      · have hmul := mul_whole (m := m) (n := n) (by simpa using hpow (j := 1) (by omega))
        refine ⟨m * n, Nat.mul_pos hm hn, (if_pos hodd).trans hmul, ?_⟩
        rw [← pow_two, ← pow_mul, mul_assoc, ← pow_succ', Nat.two_mul_odd_div_two hodd,
          Nat.sub_add_cancel (by omega)]
    rw [powAux, hacc]
    split
    case isTrue hlast =>
      rw [← hrest, hlast, Nat.pow_zero, Nat.mul_one]
    case isFalse hmore =>
      have hsquare : n * n < 2 ^ 53 := by
        have hle : n ^ 2 ≤ m * n ^ 2 := Nat.le_mul_of_pos_left _ hm
        rw [← pow_two]
        exact hle.trans_lt (hpow (by omega))
      rw [mul_whole hsquare, ih (k / 2) (by omega) hm' (Nat.mul_pos hn hn) (hrest ▸ hlt), hrest]

theorem pow_ofNat {n k : ℕ} (hn : 1 ≤ n) (hlt : n ^ k < 2 ^ 53) :
    (ofNat n).pow k = finite false (n ^ k * one) := by
  rcases Nat.eq_zero_or_pos k with rfl | hk
  · rw [Binary64.pow_zero, ofNat_one, Nat.pow_zero, Nat.one_mul]
  · have hsmall : n < 2 ^ 53 := (Nat.le_self_pow hk.ne' n).trans_lt hlt
    have hpow := powAux_whole k le_rfl hn (by rwa [one_mul])
    rwa [← ofNat_of_lt (by decide), ← ofNat_of_lt hsmall, one_mul] at hpow

theorem abs_neg (x : Binary64) : x.neg.abs = x.abs := by
  cases x <;> rfl

section Near

variable {x y z w : ℚ}

/-- Up to here three roundings come to less than a half. -/
theorem Near.abs_sub_lt_half (h : Near 3 x y) (hy : y ≤ 2 ^ 20 * 10 ^ 9) : |x - y| < 1 / 2 := by
  obtain ⟨hlow, hhigh⟩ := h
  norm_num [roundoff] at hlow hhigh
  norm_num at hy
  rw [abs_sub_lt_iff]
  constructor <;> linarith

/-- Up to here three roundings and two others come to less than one. -/
theorem Near.lt_of_add_one_le (hx : Near 3 x y) (hz : Near 2 z w) (hy : y ≤ 2 ^ 20 * 10 ^ 9)
    (hnext : y + 1 ≤ w) : x < z := by
  obtain ⟨-, hhigh⟩ := hx
  obtain ⟨hlow, -⟩ := hz
  norm_num [roundoff] at hlow hhigh
  norm_num at hy
  linarith

end Near

end Binary64

open Binary64 (Near finite one roundUnits)

-- It is too great to be written out.
attribute [local irreducible] Binary64.one

namespace Duration

variable {d cap : Duration} {m : ℕ}

/-- A multiple of a span in seconds, in units and rounded. -/
def productUnits (d : Duration) (m : ℕ) : ℕ := roundUnits (d.units * (m * one)) one

/-- Three roundings lead from a span to the double that is its multiple. -/
theorem near_product (d : Duration) (m : ℕ) :
    Near 3 (inNanos (d.productUnits m)) (d.nanos * m) := by
  have hround := Binary64.near_roundUnits_mul (d.units * m) Binary64.one_pos
  rw [mul_assoc] at hround
  have hproduct := hround.mul_right (div_pos nanosPerSecond_cast_pos one_cast_pos).le
  have hsame : ((d.units * m : ℕ) : ℚ) * (nanosPerSecond / one) = inNanos d.units * m := by
    rw [inNanos]
    push_cast
    ring
  rw [hsame] at hproduct
  exact hproduct.trans (d.near_units.mul_right m.cast_nonneg)

section

variable (hm : d.nanos * m ≤ 2 ^ 20 * nanosPerSecond)
include hm

theorem cast_mul_le : (d.nanos * m : ℚ) ≤ 2 ^ 20 * 10 ^ 9 := by
  have hcast : ((d.nanos * m : ℕ) : ℚ) ≤ (2 ^ 20 * nanosPerSecond : ℕ) := Nat.cast_le.mpr hm
  rw [Nat.cast_mul] at hcast
  refine hcast.trans_eq ?_
  norm_num [nanosPerSecond]

/-- The double that is a multiple stands for the multiple. -/
theorem ofSeconds?_product :
    ∃ e, ofSeconds? (finite false (d.productUnits m)) = some e ∧ e.nanos = d.nanos * m := by
  have hlimit : d.nanos * m < limit := hm.trans_lt (by decide)
  refine ⟨⟨d.nanos * m, hlimit⟩, ofSeconds?_of_abs_sub_lt (.inl rfl) ?_, rfl⟩
  rw [Nat.cast_mul]
  exact (d.near_product m).abs_sub_lt_half (cast_mul_le hm)

/-- A multiple in seconds reaches a cap in seconds only if the multiple reaches the cap. -/
theorem le_nanos_of_le_product (hle : cap.units ≤ d.productUnits m) :
    cap.nanos ≤ d.nanos * m := by
  by_contra hbeyond
  have hnext : (d.nanos * m + 1 : ℚ) ≤ cap.nanos := mod_cast not_le.mp hbeyond
  have hlt := (d.near_product m).lt_of_add_one_le cap.near_units (cast_mul_le hm) hnext
  exact hlt.not_ge (inNanos_le hle)

/-- A multiple of a span in seconds does not overflow. -/
theorem toSeconds_mul :
    d.toSeconds.mul (finite false (m * one)) = finite false (d.productUnits m) := by
  have hbound := cast_mul_le hm
  have hnanos : inNanos d.units * m ≤ 2 ^ 21 * nanosPerSecond := by
    have hnear := (d.near_units.mul_right (z := (m : ℚ)) m.cast_nonneg).2
    norm_num [Binary64.roundoff, nanosPerSecond] at hnear hbound ⊢
    linarith
  have hcast : (d.units * m : ℚ) ≤ 2 ^ 21 * one := by
    rw [inNanos, mul_right_comm, ← mul_div_assoc, div_le_iff₀ one_cast_pos] at hnanos
    refine le_of_mul_le_mul_right ?_ nanosPerSecond_cast_pos
    linarith
  have hunits : d.units * m ≤ 2 ^ 21 * one := mod_cast hcast
  rw [toSeconds_eq, Binary64.mul_finite, productUnits, ← mul_assoc]
  exact Binary64.ofUnits_of_le false (Binary64.fits_two_pow 21).mul_one
    (Binary64.two_pow_mul_one_lt_overflow (by decide)) (Nat.mul_le_mul_right one hunits)

end

end Duration

namespace Backoff

variable (b : Backoff) {n retries : ℕ}

/-- The power of a whole factor is exact, and so is the power of one with a capped exponent. -/
theorem abs_factor_pow (hn : 1 ≤ n)
    (hfactor : b.factor = .ofNat n ∨ b.factor = (Binary64.ofNat n).neg)
    (hpow : n ^ retries < 2 ^ 53) :
    b.factor.abs.pow (min retries maxExponent) = finite false (n ^ retries * one) := by
  have habs : b.factor.abs = .ofNat n := by
    have hunsigned := (Binary64.unsigned_ofUnits (n * one) Nat.one_pos).abs_eq
    rcases hfactor with h | h
    · rw [h]
      exact hunsigned
    · rw [h, Binary64.abs_neg]
      exact hunsigned
  rw [habs]
  rcases le_or_gt retries maxExponent with hsmall | hgreat
  · rw [min_eq_left hsmall, Binary64.pow_ofNat hn hpow]
  · obtain rfl : n = 1 := by
      by_contra hne
      have hmany : 2 ^ 53 ≤ n ^ retries :=
        (Nat.pow_le_pow_right (by decide) ((by decide : 53 ≤ maxExponent).trans hgreat.le)).trans
          (Nat.pow_le_pow_left (by omega) retries)
      omega
    rw [Nat.one_pow, Binary64.pow_ofNat le_rfl (by simp), Nat.one_pow]

/-- Without jitter, a backoff by a whole factor is exact to the nanosecond. -/
theorem delay_exact (draw : Draw) (hjitter : b.jitter = .zero) (hn : 1 ≤ n)
    (hfactor : b.factor = .ofNat n ∨ b.factor = (Binary64.ofNat n).neg)
    (hretries : retries < b.maxRetries) (hpow : n ^ retries < 2 ^ 53)
    (hexact : b.initial.nanos * n ^ retries ≤ 2 ^ 20 * nanosPerSecond) :
    ∃ d, b.delay retries draw = .retryAfter d ∧
      (b.cap = none → d.nanos = b.initial.nanos * n ^ retries) ∧
      ∀ cap, b.cap = some cap → d.nanos = min (b.initial.nanos * n ^ retries) cap.nanos := by
  have hscaled : b.scaled retries = finite false (b.initial.productUnits (n ^ retries)) := by
    rw [scaled, b.abs_factor_pow hn hfactor hpow, Duration.toSeconds_mul hexact]
  obtain ⟨d, hd, hnanos⟩ := Duration.ofSeconds?_product hexact
  have hproduct : orLongest (b.scaled retries) = d := by
    rw [hscaled, orLongest, hd, Option.getD_some]
  refine ⟨b.steady retries, b.delay_of_jitter_zero retries draw hjitter hretries,
    fun hcap ↦ ?_, fun cap hcap ↦ ?_⟩
  · rw [steady, hcap]
    dsimp only
    rw [hproduct, hnanos]
  · have hreached : cap.toSeconds.le (b.scaled retries) = true ↔
        cap.units ≤ b.initial.productUnits (n ^ retries) := by
      rw [hscaled, Duration.toSeconds_eq, Binary64.le_finite_iff]
    rw [steady, hcap]
    dsimp only
    split_ifs with hle
    · exact (min_eq_right (Duration.le_nanos_of_le_product hexact (hreached.mp hle))).symm
    · rw [hreached, not_le] at hle
      obtain ⟨e, he, hcapped⟩ :=
        Duration.ofSeconds?_of_lt (Binary64.fits_roundUnits _ Binary64.one_pos) hle
      obtain rfl : d = e := Option.some.inj (hd.symm.trans he)
      rw [hproduct, hnanos, min_eq_left (hnanos ▸ hcapped)]

/-- Close to the greatest exact span, a multiple that is one nanosecond short of the cap. -/
theorem delay_exact_below_cap :
    let b : Backoff :=
      { initial := .saturated 349525333333333, factor := (Binary64.ofNat 3).neg,
        cap := some (.saturated 1048576000000000), maxRetries := 2 }
    b.jitter = .zero ∧ b.factor = (Binary64.ofNat 3).neg ∧ 1 < b.maxRetries ∧ 3 ^ 1 < 2 ^ 53 ∧
      b.initial.nanos * 3 ^ 1 ≤ 2 ^ 20 * nanosPerSecond ∧
      ∃ d, b.delay 1 .still = .retryAfter d ∧ d.nanos = 1048575999999999 := by
  intro b
  have hfactor : b.factor = (Binary64.ofNat 3).neg := by dsimp only [b]
  have hretries : 1 < b.maxRetries := by decide
  have hpow : 3 ^ 1 < 2 ^ 53 := by decide
  have hexact : b.initial.nanos * 3 ^ 1 ≤ 2 ^ 20 * nanosPerSecond := by decide
  obtain ⟨d, hdelay, -, hcapped⟩ :=
    delay_exact b .still rfl (by decide) (.inr hfactor) hretries hpow hexact
  have hmin : min (b.initial.nanos * 3 ^ 1) (Duration.saturated 1048576000000000).nanos
      = 1048575999999999 := by decide
  exact ⟨rfl, hfactor, hretries, hpow, hexact, d, hdelay, (hcapped _ rfl).trans hmin⟩

end Backoff

end Errand
