import Errand.Proofs.Binary64.Rounding
import Mathlib.Algebra.Order.Field.Basic
import Mathlib.Data.Rat.Cast.Order
import Mathlib.Tactic.FieldSimp
import Mathlib.Tactic.GCongr
import Mathlib.Tactic.NormNum
import Mathlib.Tactic.Positivity

/-!
How far rounding to doubles goes. One rounding misses by at most half the step of what is rounded
(`abs_roundUnits_sub_le`). Below a bound the step is known (`abs_roundUnits_sub_le_of_lt`), and it
is one part in `2 ^ 52` at most where no bits are lost below the smallest double
(`near_roundUnits`). The parts that several roundings may add or take away are counted by `Near`,
which composes (`Near.trans`, `Near.add`, `Near.mul_right`).
-/

set_option autoImplicit false

namespace Errand

/-! ### The nearest whole number -/

/-- The nearest whole number is at most half a one too small. -/
theorem two_mul_le_nearestEven (num : ℕ) {den : ℕ} (hden : 0 < den) :
    2 * num ≤ 2 * (nearestEven num den * den) + den := by
  have hsplit := Nat.div_add_mod' num den
  have hrest := Nat.mod_lt num hden
  unfold nearestEven
  dsimp only
  split_ifs with hdown
  · omega
  · rw [Nat.add_mul, Nat.one_mul]
    omega

theorem abs_nearestEven_sub_le (num : ℕ) {den : ℕ} (hden : 0 < den) :
    |(nearestEven num den : ℚ) - num / den| ≤ 1 / 2 := by
  have hpos : (0 : ℚ) < den := Nat.cast_pos.mpr hden
  have hup : (2 * (nearestEven num den * den) : ℚ) ≤ 2 * num + den :=
    mod_cast two_mul_nearestEven_le num den
  have hdown : (2 * num : ℚ) ≤ 2 * (nearestEven num den * den) + den :=
    mod_cast two_mul_le_nearestEven num hden
  rw [abs_sub_le_iff, sub_le_iff_le_add, sub_le_iff_le_add, div_le_iff₀ hpos]
  constructor
  · rw [← sub_le_iff_le_add', le_div_iff₀ hpos]
    linarith
  · linarith

/-- What is nearer to a whole number than a half is rounded to it. -/
theorem nearestEven_eq_of_abs_sub_lt {num den n : ℕ} (hden : 0 < den)
    (hnear : |(num / den : ℚ) - n| < 1 / 2) : nearestEven num den = n := by
  have hround := abs_nearestEven_sub_le num hden
  have hlt : |(nearestEven num den : ℚ) - n| < 1 := by
    calc |(nearestEven num den : ℚ) - n|
        ≤ |(nearestEven num den : ℚ) - num / den| + |(num / den : ℚ) - n| := abs_sub_le ..
      _ < 1 / 2 + 1 / 2 := add_lt_add_of_le_of_lt hround hnear
      _ = 1 := by norm_num
  rw [abs_sub_lt_iff] at hlt
  have hup : nearestEven num den < n + 1 := by
    have := hlt.1
    rw [sub_lt_iff_lt_add'] at this
    exact_mod_cast this
  have hdown : n < nearestEven num den + 1 := by
    have := hlt.2
    rw [sub_lt_iff_lt_add'] at this
    exact_mod_cast this
  omega

namespace Binary64

/-! ### One rounding -/

section Rounding

variable {num den : ℕ}

/-- Rounding misses by at most half a step. -/
theorem abs_roundUnits_sub_le (num : ℕ) (hden : 0 < den) :
    |(roundUnits num den : ℚ) - num / den| ≤ 2 ^ spareBits (num / den) / 2 := by
  have hstep : (0 : ℚ) < 2 ^ spareBits (num / den) := by positivity
  have hround := abs_nearestEven_sub_le num
    (Nat.mul_pos hden (Nat.two_pow_pos (spareBits (num / den))))
  push_cast [Nat.pow_eq] at hround
  have hscaled : (roundUnits num den : ℚ) - num / den
      = (nearestEven num (den * 2 ^ spareBits (num / den))
          - num / (den * 2 ^ spareBits (num / den))) * 2 ^ spareBits (num / den) := by
    rw [roundUnits, Nat.pow_eq]
    push_cast
    field_simp
  rw [hscaled, abs_mul, abs_of_pos hstep]
  calc |(nearestEven num (den * 2 ^ spareBits (num / den)) : ℚ)
          - num / (den * 2 ^ spareBits (num / den))| * 2 ^ spareBits (num / den)
      ≤ 1 / 2 * 2 ^ spareBits (num / den) := mul_le_mul_of_nonneg_right hround hstep.le
    _ = 2 ^ spareBits (num / den) / 2 := by ring

theorem spareBits_le {q k : ℕ} (hq : q < 2 ^ (53 + k)) : spareBits q ≤ k := by
  by_contra hmore
  have hlead := two_pow_le_of_spare (q := q) (by omega)
  have hpow : 2 ^ (53 + k) ≤ 2 ^ (52 + spareBits q) := Nat.pow_le_pow_right (by decide) (by omega)
  omega

/-- Rounding below a power of two misses by at most one part in `2 ^ 54` of it. -/
theorem abs_roundUnits_sub_le_of_lt {k : ℕ} (hden : 0 < den) (hlt : num < 2 ^ (53 + k) * den) :
    |(roundUnits num den : ℚ) - num / den| ≤ 2 ^ k / 2 := by
  have hspare : spareBits (num / den) ≤ k := spareBits_le (Nat.div_lt_of_lt_mul (by rwa [mul_comm]))
  refine (abs_roundUnits_sub_le num hden).trans ?_
  gcongr
  norm_num

end Rounding

/-! ### Several roundings -/

/-- The part that one rounding may add or take away. -/
def roundoff : ℚ := 1 / 2 ^ 53

/-- Whether `x` is what some `k` roundings may make of `y`. -/
def Near (k : ℕ) (x y : ℚ) : Prop := (1 - roundoff) ^ k * y ≤ x ∧ x ≤ (1 + roundoff) ^ k * y

namespace Near

variable {j k : ℕ} {x x' y y' z : ℚ}

theorem trans (hxy : Near j x y) (hyz : Near k y z) : Near (j + k) x z := by
  have hlow : (0 : ℚ) ≤ (1 - roundoff) ^ j := pow_nonneg (by norm_num [roundoff]) j
  have hhigh : (0 : ℚ) ≤ (1 + roundoff) ^ j := pow_nonneg (by norm_num [roundoff]) j
  constructor
  · calc (1 - roundoff) ^ (j + k) * z = (1 - roundoff) ^ j * ((1 - roundoff) ^ k * z) := by ring
      _ ≤ (1 - roundoff) ^ j * y := mul_le_mul_of_nonneg_left hyz.1 hlow
      _ ≤ x := hxy.1
  · calc x ≤ (1 + roundoff) ^ j * y := hxy.2
      _ ≤ (1 + roundoff) ^ j * ((1 + roundoff) ^ k * z) := mul_le_mul_of_nonneg_left hyz.2 hhigh
      _ = (1 + roundoff) ^ (j + k) * z := by ring

theorem add (h : Near k x y) (h' : Near k x' y') : Near k (x + x') (y + y') := by
  constructor
  · rw [mul_add]
    exact add_le_add h.1 h'.1
  · rw [mul_add]
    exact add_le_add h.2 h'.2

theorem mul_right (h : Near k x y) (hz : 0 ≤ z) : Near k (x * z) (y * z) := by
  constructor
  · rw [← mul_assoc]
    exact mul_le_mul_of_nonneg_right h.1 hz
  · rw [← mul_assoc]
    exact mul_le_mul_of_nonneg_right h.2 hz

end Near

section Rounding

variable {num den : ℕ}

/-- Rounding misses by one part in `2 ^ 53` at most, unless it is of less than `2 ^ 52` units. -/
theorem near_roundUnits (hden : 0 < den) (hle : 2 ^ 52 * den ≤ num) :
    Near 1 (roundUnits num den) (num / den) := by
  have hpos : (0 : ℚ) < den := Nat.cast_pos.mpr hden
  have hround := abs_roundUnits_sub_le num hden
  have hstep : (2 ^ spareBits (num / den) / 2 : ℚ) ≤ roundoff * (num / den) := by
    have hlead : 2 ^ (52 + spareBits (num / den)) * den ≤ num := by
      rcases Nat.eq_zero_or_pos (spareBits (num / den)) with hnone | hspare
      · rwa [hnone]
      · exact (Nat.mul_le_mul_right _ (two_pow_le_of_spare hspare)).trans
          (Nat.div_mul_le_self num den)
    have hcast : (2 ^ (52 + spareBits (num / den)) : ℚ) ≤ num / den := by
      rw [le_div_iff₀ hpos]
      exact_mod_cast hlead
    rw [roundoff, pow_add] at *
    linarith
  rw [abs_sub_le_iff] at hround
  constructor <;> rw [pow_one] <;> linarith

/-- A whole count of units is either exact or great. -/
theorem near_roundUnits_mul (w : ℕ) (hden : 0 < den) : Near 1 (roundUnits (w * den) den) w := by
  have hexact : ((w * den : ℕ) / den : ℚ) = w := by
    have : (den : ℚ) ≠ 0 := Nat.cast_ne_zero.mpr hden.ne'
    push_cast
    field_simp
  rcases lt_or_ge w (2 ^ 53) with hsmall | hgreat
  · rw [roundUnits_of_fits hden (fits_of_lt hsmall)]
    have hnonneg : (0 : ℚ) ≤ roundoff * w := mul_nonneg (by norm_num [roundoff]) w.cast_nonneg
    constructor <;> linarith
  · have hnear := near_roundUnits hden (Nat.mul_le_mul_right den
      ((Nat.pow_le_pow_right (by decide) (by decide)).trans hgreat : 2 ^ 52 ≤ w))
    rwa [hexact] at hnear

end Rounding

end Binary64

end Errand
