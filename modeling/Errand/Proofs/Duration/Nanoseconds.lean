import Errand.Proofs.Binary64.Precision
import Errand.Proofs.Duration.Seconds

/-!
Spans and doubles to the nanosecond. A span in seconds is two roundings away from what it is
(`near_units`): its seconds and the rest are rounded apart, and then their sum. A double that is
less than half a nanosecond away from a span stands for that span (`ofSeconds?_of_abs_sub_lt`). The
greatest double below `2 ^ 64` is still a span, so a double stands for none just if it is out of
range (`ofSeconds?_eq_none_iff`).
-/

set_option autoImplicit false

namespace Errand.Duration

open Binary64 (Fits Near one one_pos roundUnits finite infinite nan overflow)

-- Both are too great to be written out.
attribute [local irreducible] Binary64.one Binary64.overflow

theorem one_cast_pos : (0 : ℚ) < one := Nat.cast_pos.mpr one_pos

theorem nanosPerSecond_cast_pos : (0 : ℚ) < nanosPerSecond := Nat.cast_pos.mpr (by decide)

/-- How many nanoseconds a double is that counts seconds in units. -/
def inNanos (units : ℕ) : ℚ := units * (nanosPerSecond / one)

theorem inNanos_le {u v : ℕ} (h : u ≤ v) : inNanos u ≤ inNanos v :=
  mul_le_mul_of_nonneg_right (Nat.cast_le.mpr h)
    (div_pos nanosPerSecond_cast_pos one_cast_pos).le

section

variable (d : Duration)

theorem near_wholeUnits : Near 1 d.wholeUnits (d.seconds * one) := by
  have hnear := Binary64.near_roundUnits_mul (d.seconds * one) Nat.one_pos
  rwa [Nat.mul_one, Nat.cast_mul] at hnear

theorem near_restUnits : Near 1 d.restUnits (d.subsecond * one / nanosPerSecond) := by
  have hone := one_cast_pos
  rcases Nat.eq_zero_or_pos d.subsecond with hnone | hsome
  · have hrest : d.restUnits = 0 := by
      rw [restUnits, hnone, Nat.zero_mul, Nat.zero_mul, Binary64.roundUnits_zero]
    rw [hrest, hnone]
    constructor <;> simp
  · have hle : 2 ^ 52 * (nanosPerSecond * one) ≤ d.subsecond * one * one :=
      (Nat.mul_le_mul_right _ (by decide)).trans (d.two_pow_mul_le_subsecond hsome)
    have hnear := Binary64.near_roundUnits nanosPerSecond_mul_one_pos hle
    have hratio : ((d.subsecond * one * one : ℕ) / (nanosPerSecond * one : ℕ) : ℚ)
        = d.subsecond * one / nanosPerSecond := by
      push_cast
      exact mul_div_mul_right _ _ hone.ne'
    rwa [hratio] at hnear

/-- Two roundings lead from a span to its double. -/
theorem near_units : Near 2 (inNanos d.units) d.nanos := by
  have hone := one_cast_pos
  have hnanos := nanosPerSecond_cast_pos
  have hsum := d.near_wholeUnits.add d.near_restUnits
  have hround := Binary64.near_roundUnits_mul (d.wholeUnits + d.restUnits) Nat.one_pos
  rw [Nat.mul_one, Nat.cast_add] at hround
  have hunits := (hround.trans hsum).mul_right (div_pos hnanos hone).le
  have hsplit : (d.seconds * one + d.subsecond * one / nanosPerSecond : ℚ)
      * (nanosPerSecond / one) = d.nanos := by
    rw [nanos_eq]
    push_cast
    field_simp
  rwa [hsplit] at hunits

end

/-- What is less than half a nanosecond away from a span stands for it. A minus sign matters only
in front of something. -/
theorem ofSeconds?_of_abs_sub_lt {negative : Bool} {units : ℕ} {d : Duration}
    (hsign : negative = false ∨ units = 0) (hnear : |inNanos units - d.nanos| < 1 / 2) :
    ofSeconds? (finite negative units) = some d := by
  have hnanos : nearestEven (units * nanosPerSecond) one = d.nanos := by
    refine nearestEven_eq_of_abs_sub_lt one_pos ?_
    rwa [Nat.cast_mul, mul_div_assoc]
  have hpositive : ¬((negative && decide (units ≠ 0)) = true) := by
    rcases hsign with rfl | rfl <;> simp
  rw [ofSeconds?, if_neg hpositive, hnanos, ofNanos?, dif_pos d.nanos_lt]

/-! ### Out of range -/

/-- The doubles that are no number of seconds in a span. -/
def NoSpan (x : Binary64) : Prop :=
  x = nan ∨ (∃ negative, x = infinite negative) ∨ Binary64.zero.le x = false ∨
    (Binary64.ofNat (2 ^ 64)).le x = true

theorem ofNat_seconds_limit : Binary64.ofNat (2 ^ 64) = finite false (2 ^ 64 * one) := by
  have hround := Binary64.ofUnits_of_fits false Nat.one_pos (Binary64.fits_two_pow 64).mul_one
    (Binary64.two_pow_mul_one_lt_overflow (by decide))
  rwa [Nat.mul_one] at hround

theorem ofSeconds?_negative {units : ℕ} (hsome : units ≠ 0) :
    ofSeconds? (finite true units) = none := by
  rw [ofSeconds?, if_pos (by simpa using hsome)]

/-- The step of doubles just below `2 ^ 64` is many seconds. -/
theorem ofSeconds?_finite_eq_none_iff {units : ℕ} (hunits : Fits units) :
    ofSeconds? (finite false units) = none ↔ 2 ^ 64 * one ≤ units := by
  have hlimit : ofSeconds? (finite false units) = none ↔
      limit ≤ nearestEven (units * nanosPerSecond) one := by
    rw [ofSeconds?, if_neg (by simp), ofNanos?]
    split_ifs with hlt
    · simpa using hlt
    · simpa using hlt
  rw [hlimit]
  constructor
  · intro hle
    by_contra hbelow
    have hgap : units ≤ (2 ^ 53 - 1) * (2 ^ 11 * one) := by
      rw [Binary64.two_pow_mul_one (j := 64) (k := 53 + 1085) rfl, not_le] at hbelow
      rw [Binary64.two_pow_mul_one (j := 11) (k := 1085) rfl]
      exact hunits.le_of_lt hbelow
    have hround : nearestEven (units * nanosPerSecond) one
        ≤ (2 ^ 53 - 1) * 2 ^ 11 * nanosPerSecond := by
      refine nearestEven_le ?_
      calc units * nanosPerSecond ≤ (2 ^ 53 - 1) * (2 ^ 11 * one) * nanosPerSecond :=
            Nat.mul_le_mul_right _ hgap
        _ = (2 ^ 53 - 1) * 2 ^ 11 * nanosPerSecond * one := by ring
    exact absurd (hle.trans hround) (by decide)
  · intro hle
    refine le_nearestEven one_pos ?_
    calc limit * one = 2 ^ 64 * one * nanosPerSecond := Nat.mul_right_comm ..
      _ ≤ units * nanosPerSecond := Nat.mul_le_mul_right _ hle

/-- A double stands for no span if it is out of range, and only then. -/
theorem ofSeconds?_eq_none_iff {x : Binary64} (hx : x.Rounded) :
    ofSeconds? x = none ↔ NoSpan x := by
  cases x with
  | nan => exact iff_of_true rfl (.inl rfl)
  | infinite negative => exact iff_of_true rfl (.inr (.inl ⟨negative, rfl⟩))
  | finite negative units =>
    have hsign : Binary64.zero.le (finite negative units) = false ↔
        negative = true ∧ units ≠ 0 := by
      cases negative <;> simp [Binary64.zero, Binary64.le, Binary64.signed]
    have hrange : NoSpan (finite negative units) ↔
        (negative = true ∧ units ≠ 0) ∨ (Binary64.ofNat (2 ^ 64)).le (finite negative units) := by
      simp [NoSpan, hsign]
    rw [hrange, ofNat_seconds_limit]
    cases negative with
    | false =>
      rw [ofSeconds?_finite_eq_none_iff (hx false units rfl), Binary64.le_finite_iff]
      simp
    | true =>
      rw [Binary64.le_negative_iff]
      rcases Nat.eq_zero_or_pos units with rfl | hsome
      · refine iff_of_false ?_ (by simp [Binary64.one_pos.ne'])
        rw [ofSeconds?_of_abs_sub_lt (d := zero) (.inr rfl) (by norm_num [inNanos, zero])]
        exact Option.some_ne_none _
      · exact iff_of_true (ofSeconds?_negative hsome.ne') (.inl ⟨rfl, hsome.ne'⟩)

end Errand.Duration
