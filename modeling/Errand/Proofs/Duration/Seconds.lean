import Errand.Duration
import Errand.Proofs.Binary64.Rounding

/-!
Spans as doubles. In seconds a span is a finite double without a minus sign (`toSeconds_eq`). Three
roundings lead there, and it may come out greater than the span; but no double lies between the two
(`units_le_of_lt`). So a double that is less than a span in seconds stands for a span that is no
longer (`ofSeconds?_of_lt`).
-/

set_option autoImplicit false

namespace Errand

open Binary64 (Fits one one_pos roundUnits finite overflow ofUnits)

-- Both are too great to be written out.
attribute [local irreducible] Binary64.one Binary64.overflow

namespace Binary64

theorem ofNat_eq (n : ℕ) : ofNat n = ofUnits false (n * one) 1 := rfl

theorem mul_one_lt_overflow {n : ℕ} (hn : n < 2 ^ 53) : n * one < overflow := by
  exact (Nat.mul_lt_mul_of_pos_right hn one_pos).trans (two_pow_mul_one_lt_overflow (by decide))

theorem ofNat_of_lt {n : ℕ} (hn : n < 2 ^ 53) : ofNat n = finite false (n * one) := by
  have hround :=
    ofUnits_of_fits false Nat.one_pos (fits_of_lt hn).mul_one (mul_one_lt_overflow hn)
  rwa [Nat.mul_one] at hround

theorem add_finite (u v : ℕ) :
    (finite false u).add (finite false v) = ofUnits false (u + v) 1 := by
  have hsum : signed false u + signed false v = ((u + v : ℕ) : ℤ) := by simp [signed]
  rw [add, hsum]
  rcases Nat.eq_zero_or_pos (u + v) with hzero | hpos
  · rw [hzero, ofUnits_zero]
    rfl
  · have hsign : decide (((u + v : ℕ) : ℤ) < 0) = false :=
      decide_eq_false (Int.natCast_nonneg _).not_gt
    have hsome : ((u + v : ℕ) : ℤ) ≠ 0 := by omega
    rw [if_neg hsome, hsign, Int.natAbs_natCast]

theorem le_finite_iff {u v : ℕ} : (finite false u).le (finite false v) = true ↔ u ≤ v := by
  simp [le, signed]

theorem le_negative_iff {u v : ℕ} :
    (finite false u).le (finite true v) = true ↔ u = 0 ∧ v = 0 := by
  simp only [le, signed, decide_eq_true_eq, Bool.false_eq_true, if_false, if_true]
  omega

theorem div_finite {v : ℕ} (u : ℕ) (hv : 0 < v) :
    (finite false u).div (finite false v) = ofUnits false (u * one) v := by
  rw [div, if_neg hv.ne']
  rfl

end Binary64

namespace Duration

/-- The whole seconds of a span, in units and rounded. -/
def wholeUnits (d : Duration) : ℕ := roundUnits (d.seconds * one) 1

/-- The rest of a span, in units and rounded. -/
def restUnits (d : Duration) : ℕ := roundUnits (d.subsecond * one * one) (nanosPerSecond * one)

/-- A span in seconds as a double, in units. -/
def units (d : Duration) : ℕ := roundUnits (d.wholeUnits + d.restUnits) 1

theorem nanosPerSecond_mul_one_pos : 0 < nanosPerSecond * one :=
  Nat.mul_pos (by decide) one_pos

section

variable (d : Duration)

theorem seconds_lt : d.seconds < 2 ^ 64 :=
  Nat.div_lt_of_lt_mul (Nat.mul_comm nanosPerSecond (2 ^ 64) ▸ d.nanos_lt)

theorem subsecond_lt : d.subsecond < nanosPerSecond := Nat.mod_lt _ (by decide)

/-- Even a nanosecond has units in plenty. -/
theorem two_pow_mul_le_subsecond (hsome : 0 < d.subsecond) :
    2 ^ 53 * (nanosPerSecond * one) ≤ d.subsecond * one * one := by
  have hnano : 2 ^ 53 * nanosPerSecond ≤ one :=
    (by decide : 2 ^ 53 * nanosPerSecond ≤ 2 ^ 83).trans (Binary64.two_pow_le_one (by decide))
  calc 2 ^ 53 * (nanosPerSecond * one) = 2 ^ 53 * nanosPerSecond * one := (Nat.mul_assoc ..).symm
    _ ≤ one * one := Nat.mul_le_mul_right _ hnano
    _ ≤ d.subsecond * one * one := Nat.mul_le_mul_right _ (Nat.le_mul_of_pos_left _ hsome)

theorem nanos_eq : d.nanos = d.seconds * nanosPerSecond + d.subsecond :=
  (Nat.div_add_mod' ..).symm

theorem wholeUnits_le : d.wholeUnits ≤ 2 ^ 64 * one := by
  refine Binary64.roundUnits_le (Binary64.fits_two_pow 64).mul_one ?_
  rw [Nat.mul_one]
  exact Nat.mul_le_mul_right _ d.seconds_lt.le

/-- The rest of a second is rounded to less than a second. -/
theorem restUnits_lt : d.restUnits < one := by
  have hrest : d.restUnits ≤ (2 ^ 53 - 1) * 2 ^ 1021 := by
    refine Binary64.roundUnits_le ((Binary64.fits_of_lt (by decide)).mul_two_pow _) ?_
    calc d.subsecond * one * one ≤ (nanosPerSecond - 1) * one * one :=
          Nat.mul_le_mul_right _ (Nat.mul_le_mul_right _ (Nat.le_pred_of_lt d.subsecond_lt))
      _ ≤ (2 ^ 53 - 1) * 2 ^ 1021 * (nanosPerSecond * one) := by decide +kernel
  exact hrest.trans_lt (by decide +kernel)

theorem ofNat_seconds : Binary64.ofNat d.seconds = finite false d.wholeUnits := by
  have hle : d.seconds * one ≤ 2 ^ 64 * one * 1 := by
    rw [Nat.mul_one]
    exact Nat.mul_le_mul_right _ d.seconds_lt.le
  rw [Binary64.ofNat_eq, wholeUnits]
  exact Binary64.ofUnits_of_le false (Binary64.fits_two_pow 64).mul_one
    (Binary64.two_pow_mul_one_lt_overflow (by decide)) hle

theorem units_lt_overflow : d.units < overflow := by
  have hle : d.units ≤ 2 ^ 65 * one := by
    refine Binary64.roundUnits_le (Binary64.fits_two_pow 65).mul_one ?_
    calc d.wholeUnits + d.restUnits ≤ 2 ^ 64 * one + one :=
          Nat.add_le_add d.wholeUnits_le d.restUnits_lt.le
      _ = (2 ^ 64 + 1) * one := (Nat.succ_mul ..).symm
      _ ≤ 2 ^ 65 * one := Nat.mul_le_mul_right _ (by decide)
      _ = 2 ^ 65 * one * 1 := (Nat.mul_one _).symm
  exact hle.trans_lt (Binary64.two_pow_mul_one_lt_overflow (by decide))

theorem toSeconds_eq : d.toSeconds = finite false d.units := by
  have hsubsecond : d.subsecond < 2 ^ 53 := d.subsecond_lt.trans (by decide)
  have hle : d.subsecond * one * one ≤ one * (nanosPerSecond * one) := by
    calc d.subsecond * one * one ≤ nanosPerSecond * one * one :=
          Nat.mul_le_mul_right _ (Nat.mul_le_mul_right _ d.subsecond_lt.le)
      _ = one * (nanosPerSecond * one) := Nat.mul_comm ..
  rw [toSeconds, ofNat_seconds, Binary64.ofNat_of_lt hsubsecond,
    Binary64.ofNat_of_lt (by decide), Binary64.div_finite _ nanosPerSecond_mul_one_pos,
    Binary64.ofUnits_of_le false Binary64.fits_one Binary64.one_lt_overflow hle]
  change (finite false d.wholeUnits).add (finite false d.restUnits) = _
  rw [Binary64.add_finite, ofUnits, if_pos]
  · rfl
  · exact d.units_lt_overflow

end

variable {d : Duration} {x : ℕ}

theorem units_zero : zero.units = 0 := by
  decide +kernel

/-- The shortest span but zero has units in plenty. -/
theorem eq_zero_or_le_units (d : Duration) : d = zero ∨ 2 ^ 53 ≤ d.units := by
  rcases Nat.eq_zero_or_pos d.nanos with hnone | hsome
  · obtain ⟨nanos, hlt⟩ := d
    subst hnone
    exact .inl rfl
  · refine .inr (Binary64.le_roundUnits Nat.one_pos (Binary64.fits_two_pow 53) ?_)
    rw [Nat.mul_one]
    rcases Nat.eq_zero_or_pos d.seconds with hnone | hsecond
    · have hsubsecond : 1 ≤ d.subsecond := by
        rw [nanos_eq, hnone] at hsome
        omega
      have hrest : 2 ^ 53 ≤ d.restUnits :=
        Binary64.le_roundUnits nanosPerSecond_mul_one_pos (Binary64.fits_two_pow 53)
          (d.two_pow_mul_le_subsecond hsubsecond)
      exact hrest.trans (Nat.le_add_left ..)
    · have hwhole : one ≤ d.wholeUnits := by
        refine Binary64.le_roundUnits Nat.one_pos Binary64.fits_one ?_
        rw [Nat.mul_one]
        exact Nat.le_mul_of_pos_left _ hsecond
      calc 2 ^ 53 ≤ one := Binary64.two_pow_le_one (by decide)
        _ ≤ d.wholeUnits := hwhole
        _ ≤ d.wholeUnits + d.restUnits := Nat.le_add_right ..

theorem units_eq_zero_iff : d.units = 0 ↔ d = zero := by
  constructor
  · intro hunits
    refine d.eq_zero_or_le_units.resolve_right ?_
    simp [hunits]
  · rintro rfl
    exact units_zero

theorem ofSeconds?_zero : ofSeconds? (finite false 0) = some zero := by decide +kernel

/-- Whole seconds below `2 ^ 53` are not rounded. -/
theorem wholeUnits_of_lt (hd : d.seconds < 2 ^ 53) : d.wholeUnits = d.seconds * one := by
  have hround := Binary64.roundUnits_of_fits Nat.one_pos (Binary64.fits_of_lt hd).mul_one
  rwa [Nat.mul_one] at hround

/-- From `2 ^ 53` seconds on what is beyond the whole ones is lost. -/
theorem units_of_le (hd : 2 ^ 53 ≤ d.seconds) : d.units = d.wholeUnits := by
  have hgreat : 2 ^ 53 * one ≤ d.wholeUnits := by
    refine Binary64.le_roundUnits Nat.one_pos (Binary64.fits_two_pow 53).mul_one ?_
    rw [Nat.mul_one]
    exact Nat.mul_le_mul_right _ hd
  exact Binary64.roundUnits_add_of_lt Binary64.one_eq (Binary64.fits_roundUnits _ Nat.one_pos)
    hgreat d.restUnits_lt

/-- A double that exceeds a span is not exceeded by the span as a double. -/
theorem units_le_of_lt (hx : Fits x) (hlt : d.nanos * one < x * nanosPerSecond) : d.units ≤ x := by
  have hsplit : d.nanos * one = d.seconds * one * nanosPerSecond + d.subsecond * one := by
    rw [nanos_eq, Nat.add_mul, Nat.mul_right_comm]
  have hwhole : d.seconds * one < x :=
    Nat.lt_of_mul_lt_mul_right ((hsplit ▸ Nat.le_add_right _ _).trans_lt hlt)
  rcases lt_or_ge d.seconds (2 ^ 53) with hsmall | hgreat
  · have hsum : d.seconds * one + d.restUnits ≤ x := by
      rcases le_or_gt ((d.seconds + 1) * one) x with hfar | hnear
      · rw [Nat.add_mul, Nat.one_mul] at hfar
        exact (Nat.add_le_add_left d.restUnits_lt.le _).trans hfar
      · have hbeyond : d.subsecond * one ≤ (x - d.seconds * one) * nanosPerSecond := by
          rw [Nat.sub_mul]
          omega
        have hrest : d.restUnits ≤ x - d.seconds * one := by
          refine Binary64.roundUnits_le (hx.sub_mul Binary64.one_eq hwhole hnear) ?_
          rw [← Nat.mul_assoc]
          exact Nat.mul_le_mul_right _ hbeyond
        omega
    refine Binary64.roundUnits_le hx ?_
    rwa [wholeUnits_of_lt hsmall, Nat.mul_one]
  · rw [units_of_le hgreat]
    refine Binary64.roundUnits_le hx ?_
    rw [Nat.mul_one]
    exact hwhole.le

/-- A double that is less than a span as a double stands for one that is no longer. -/
theorem ofSeconds?_of_lt (hx : Fits x) (hlt : x < d.units) :
    ∃ e, ofSeconds? (finite false x) = some e ∧ e.nanos ≤ d.nanos := by
  have hle : x * nanosPerSecond ≤ d.nanos * one :=
    not_lt.mp fun h ↦ (units_le_of_lt hx h).not_gt hlt
  have hnanos : nearestEven (x * nanosPerSecond) one ≤ d.nanos := nearestEven_le hle
  have hlimit : nearestEven (x * nanosPerSecond) one < limit := hnanos.trans_lt d.nanos_lt
  refine ⟨⟨nearestEven (x * nanosPerSecond) one, hlimit⟩, ?_, hnanos⟩
  rw [ofSeconds?, ofNanos?, dif_pos hlimit]
  rfl

end Duration

end Errand
