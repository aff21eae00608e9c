import Errand.Binary64
import Mathlib.Algebra.Order.Ring.Nat
import Mathlib.Tactic.Linarith
import Mathlib.Tactic.Ring

/-!
Rounding to doubles, as an order sees it. A count of units is a double's if 53 bits hold it
(`Binary64.Fits`). Rounding comes to such a count (`fits_roundUnits`), does not go past one
(`roundUnits_le`, `le_roundUnits`), and so leaves it alone (`roundUnits_of_fits`).

The product of two magnitudes is rounded and has no minus sign (`unsigned_mul_abs`). A power of a
magnitude is a number if the magnitude is, since all its factors lie on one side of one
(`pow_abs_ne_nan`).
-/

set_option autoImplicit false

namespace Errand

/-! ### The nearest whole number -/

theorem nearestEven_le {num den w : ℕ} (hle : num ≤ w * den) : nearestEven num den ≤ w := by
  rcases Nat.eq_zero_or_pos den with rfl | hden
  · obtain rfl : num = 0 := Nat.le_zero.mp hle
    exact Nat.zero_le w
  · have hquotient : num / den ≤ w := Nat.div_le_of_le_mul (Nat.mul_comm w den ▸ hle)
    rcases hquotient.lt_or_eq with hlt | rfl
    · unfold nearestEven
      dsimp only
      split_ifs <;> omega
    · have hremainder : num % den = 0 := by
        have := Nat.div_add_mod' num den
        omega
      simp [nearestEven, hremainder, hden]

theorem le_nearestEven {num den w : ℕ} (hden : 0 < den) (hle : w * den ≤ num) :
    w ≤ nearestEven num den := by
  have hquotient : w ≤ num / den := (Nat.le_div_iff_mul_le hden).mpr hle
  unfold nearestEven
  dsimp only
  split_ifs <;> omega

/-- Less than a half is dropped. -/
theorem nearestEven_mul_add {den r : ℕ} (v : ℕ) (hr : 2 * r < den) :
    nearestEven (v * den + r) den = v := by
  have hquotient : (v * den + r) / den = v := by
    rw [Nat.mul_comm, Nat.mul_add_div (by omega), Nat.div_eq_of_lt (by omega), Nat.add_zero]
  have hremainder : (v * den + r) % den = r := by
    rw [Nat.mul_add_mod', Nat.mod_eq_of_lt (by omega)]
  simp [nearestEven, hquotient, hremainder, hr]

/-- The nearest whole number is at most half a one too great. -/
theorem two_mul_nearestEven_le (num den : ℕ) :
    2 * (nearestEven num den * den) ≤ 2 * num + den := by
  have hsplit := Nat.div_add_mod' num den
  unfold nearestEven
  dsimp only
  split_ifs with hdown
  · omega
  · rw [not_or, not_lt] at hdown
    rw [Nat.add_mul, Nat.one_mul]
    omega

namespace Binary64

/-- A count of units that a double can have: 53 bits hold it. -/
def Fits (units : ℕ) : Prop := ∃ c t, c < 2 ^ 53 ∧ units = c * 2 ^ t

theorem fits_two_pow (t : ℕ) : Fits (2 ^ t) := ⟨1, t, by norm_num, (Nat.one_mul _).symm⟩

theorem Fits.mul_two_pow {w : ℕ} (hw : Fits w) (t : ℕ) : Fits (w * 2 ^ t) := by
  obtain ⟨c, s, hc, rfl⟩ := hw
  exact ⟨c, s + t, hc, by rw [Nat.mul_assoc, Nat.pow_add]⟩

theorem fits_of_lt {n : ℕ} (hn : n < 2 ^ 53) : Fits n := ⟨n, 0, hn, (Nat.mul_one n).symm⟩

/-- What is beyond the last multiple of a power of two fits if the whole does. -/
theorem Fits.sub_mul {k s n w : ℕ} (hk : k = 2 ^ s) (hw : Fits w) (hlt : n * k < w)
    (hnext : w < (n + 1) * k) : Fits (w - n * k) := by
  obtain ⟨c, t, hc, rfl⟩ := hw
  rcases le_or_gt t s with hts | hst
  · refine ⟨c - n * 2 ^ (s - t), t, by omega, ?_⟩
    rw [Nat.sub_mul, Nat.mul_assoc, ← Nat.pow_add, Nat.sub_add_cancel hts, hk]
  · have hmultiple : c * 2 ^ t = c * 2 ^ (t - s) * k := by
      rw [hk, Nat.mul_assoc, ← Nat.pow_add, Nat.sub_add_cancel hst.le]
    rw [hmultiple] at hlt hnext
    have hbelow := Nat.lt_of_mul_lt_mul_right hlt
    have habove := Nat.lt_of_mul_lt_mul_right hnext
    omega

theorem one_eq : one = 2 ^ 1074 := by decide +kernel

theorem fits_one : Fits one := by
  rw [one_eq]
  exact fits_two_pow _

theorem Fits.mul_one {w : ℕ} (hw : Fits w) : Fits (w * one) := by
  rw [one_eq]
  exact hw.mul_two_pow _

theorem overflow_eq : overflow = 2 ^ 1024 * one := by decide +kernel

-- Both are too great to be written out.
attribute [local irreducible] one overflow

theorem one_eq_mul {k : ℕ} (hk : k ≤ 1074) : one = 2 ^ (1074 - k) * 2 ^ k := by
  rw [one_eq, Nat.pow_sub_mul_pow 2 hk]

theorem two_pow_mul_one {j k : ℕ} (h : j + 1074 = k) : 2 ^ j * one = 2 ^ k := by
  rw [one_eq, ← Nat.pow_add, h]

theorem two_pow_le_one {k : ℕ} (hk : k ≤ 1074) : 2 ^ k ≤ one := by
  rw [one_eq]
  exact pow_le_pow_right₀ one_le_two hk

theorem one_pos : 0 < one := (Nat.two_pow_pos 0).trans_le (two_pow_le_one (Nat.zero_le _))

theorem two_pow_mul_one_lt_overflow {k : ℕ} (hk : k < 1024) : 2 ^ k * one < overflow := by
  rw [overflow_eq]
  exact Nat.mul_lt_mul_of_pos_right (pow_lt_pow_right₀ one_lt_two hk) one_pos

theorem one_lt_overflow : one < overflow := by
  have hlt := two_pow_mul_one_lt_overflow (k := 0) (by decide)
  rwa [Nat.pow_zero, Nat.one_mul] at hlt

section Rounding

variable {num den w : ℕ}

/-- A count with bits to spare reaches the count of its leading bit. -/
theorem two_pow_le_of_spare {q : ℕ} (hspare : 0 < spareBits q) : 2 ^ (52 + spareBits q) ≤ q := by
  have hlog : 52 + spareBits q = q.log2 := by
    unfold spareBits at *
    omega
  have hq : q ≠ 0 := by
    rintro rfl
    simp [spareBits] at hspare
  rw [hlog]
  exact Nat.log2_self_le hq

theorem lt_two_pow_of_spare (q : ℕ) : q < 2 ^ (53 + spareBits q) := by
  have hlog : q.log2 + 1 ≤ 53 + spareBits q := by
    unfold spareBits
    omega
  exact Nat.lt_log2_self.trans_le (Nat.pow_le_pow_right (by decide) hlog)

/-- What fits is a multiple of the step of anything greater, or falls short of it altogether. -/
theorem Fits.cases (hw : Fits w) (s : ℕ) : (∃ v, w = v * 2 ^ s) ∨ 0 < s ∧ w < 2 ^ (52 + s) := by
  obtain ⟨c, t, hc, rfl⟩ := hw
  rcases le_or_gt s t with hle | hlt
  · refine Or.inl ⟨c * 2 ^ (t - s), ?_⟩
    rw [Nat.mul_assoc, ← Nat.pow_add, Nat.sub_add_cancel hle]
  · refine Or.inr ⟨Nat.zero_lt_of_lt hlt, ?_⟩
    calc c * 2 ^ t < 2 ^ 53 * 2 ^ t := Nat.mul_lt_mul_of_pos_right hc (Nat.two_pow_pos t)
      _ = 2 ^ (53 + t) := (Nat.pow_add ..).symm
      _ ≤ 2 ^ (52 + s) := Nat.pow_le_pow_right (by decide) (by omega)

/-- The greatest count below a power of two has 53 bits set. -/
theorem Fits.le_of_lt {s : ℕ} (hw : Fits w) (hlt : w < 2 ^ (53 + s)) :
    w ≤ (2 ^ 53 - 1) * 2 ^ s := by
  rcases hw.cases s with ⟨v, rfl⟩ | ⟨-, hsmall⟩
  · rw [Nat.pow_add] at hlt
    exact Nat.mul_le_mul_right _ (Nat.le_sub_one_of_lt (Nat.lt_of_mul_lt_mul_right hlt))
  · rw [Nat.pow_add] at hsmall
    exact hsmall.le.trans (Nat.mul_le_mul_right _ (by decide))

/-- Rounding does not go up past what fits. -/
theorem roundUnits_le (hw : Fits w) (hle : num ≤ w * den) : roundUnits num den ≤ w := by
  have hquotient : num / den ≤ w := Nat.div_le_of_le_mul (Nat.mul_comm w den ▸ hle)
  rcases hw.cases (spareBits (num / den)) with ⟨v, rfl⟩ | ⟨hspare, hlt⟩
  · refine Nat.mul_le_mul_right _ (nearestEven_le ?_)
    calc num ≤ v * 2 ^ spareBits (num / den) * den := hle
      _ = v * (den * Nat.pow 2 (spareBits (num / den))) := by
        rw [Nat.pow_eq]
        ring
  · exact absurd (two_pow_le_of_spare hspare) (by omega)

/-- Rounding does not go down past what fits. -/
theorem le_roundUnits (hden : 0 < den) (hw : Fits w) (hle : w * den ≤ num) :
    w ≤ roundUnits num den := by
  have hstep : 0 < den * Nat.pow 2 (spareBits (num / den)) :=
    Nat.mul_pos hden (Nat.two_pow_pos _)
  rcases hw.cases (spareBits (num / den)) with ⟨v, rfl⟩ | ⟨hspare, hlt⟩
  · refine Nat.mul_le_mul_right _ (le_nearestEven hstep ?_)
    calc v * (den * Nat.pow 2 (spareBits (num / den)))
        = v * 2 ^ spareBits (num / den) * den := by
          rw [Nat.pow_eq]
          ring
      _ ≤ num := hle
  · have hlead : 2 ^ 52 * (den * Nat.pow 2 (spareBits (num / den))) ≤ num := by
      calc 2 ^ 52 * (den * Nat.pow 2 (spareBits (num / den)))
          = 2 ^ (52 + spareBits (num / den)) * den := by
            rw [Nat.pow_eq, Nat.pow_add]
            ring
        _ ≤ num / den * den := Nat.mul_le_mul_right _ (two_pow_le_of_spare hspare)
        _ ≤ num := Nat.div_mul_le_self num den
    calc w ≤ 2 ^ (52 + spareBits (num / den)) := hlt.le
      _ = 2 ^ 52 * Nat.pow 2 (spareBits (num / den)) := Nat.pow_add ..
      _ ≤ roundUnits num den := Nat.mul_le_mul_right _ (le_nearestEven hstep hlead)

/-- What was rounded fits. -/
theorem fits_roundUnits (num : ℕ) (hden : 0 < den) : Fits (roundUnits num den) := by
  have hle : num ≤ 2 ^ 53 * (den * Nat.pow 2 (spareBits (num / den))) := by
    calc num ≤ (num / den + 1) * den := (Nat.lt_div_mul_add hden).le.trans (by ring_nf; rfl)
      _ ≤ 2 ^ (53 + spareBits (num / den)) * den :=
        Nat.mul_le_mul_right _ (lt_two_pow_of_spare _)
      _ = 2 ^ 53 * (den * Nat.pow 2 (spareBits (num / den))) := by
        rw [Nat.pow_eq, Nat.pow_add]
        ring
  rcases (nearestEven_le hle).lt_or_eq with hlt | heq
  · exact ⟨_, _, hlt, rfl⟩
  · refine ⟨1, 53 + spareBits (num / den), by norm_num, ?_⟩
    rw [roundUnits, heq, Nat.one_mul, Nat.pow_add]
    rfl

/-- Rounding leaves alone what fits. -/
theorem roundUnits_of_fits (hden : 0 < den) (hw : Fits w) : roundUnits (w * den) den = w :=
  le_antisymm (roundUnits_le hw le_rfl) (le_roundUnits hden hw le_rfl)

@[simp] theorem roundUnits_zero (den : ℕ) : roundUnits 0 den = 0 :=
  Nat.le_zero.mp (roundUnits_le (fits_of_lt (by decide)) (Nat.zero_le _))

/-- No overflow below a double. -/
theorem ofUnits_of_le (negative : Bool) (hw : Fits w) (hlt : w < overflow) (hle : num ≤ w * den) :
    ofUnits negative num den = finite negative (roundUnits num den) := by
  have hround : roundUnits num den < overflow := (roundUnits_le hw hle).trans_lt hlt
  rw [ofUnits]
  exact if_pos hround

theorem ofUnits_of_fits (negative : Bool) (hden : 0 < den) (hw : Fits w) (hlt : w < overflow) :
    ofUnits negative (w * den) den = finite negative w := by
  rw [ofUnits_of_le negative hw hlt le_rfl, roundUnits_of_fits hden hw]

/-- A finite double has a count of units that fits. -/
def Rounded (x : Binary64) : Prop := ∀ negative units, x = finite negative units → Fits units

theorem rounded_ofUnits (negative : Bool) (num : ℕ) (hden : 0 < den) :
    Rounded (ofUnits negative num den) := by
  intro negative' units hfinite
  rw [ofUnits] at hfinite
  split at hfinite
  · cases hfinite
    exact fits_roundUnits num hden
  · cases hfinite

theorem ofUnits_zero (negative : Bool) (den : ℕ) : ofUnits negative 0 den = finite negative 0 := by
  have hround : roundUnits 0 den < overflow := by
    rw [roundUnits_zero]
    exact one_pos.trans one_lt_overflow
  rw [ofUnits, if_pos hround, roundUnits_zero]

/-- A double is rounded to less than itself if it is multiplied by less than one, be it ever so
little less. -/
theorem roundUnits_mul_lt {u v : ℕ} (hden : 0 < den) (hu : u * 2 ^ 53 + den ≤ 2 ^ 53 * den)
    (hv : 2 ^ 52 < v) : roundUnits (u * v) den < v := by
  by_contra hge
  rw [not_lt] at hge
  have hquotient : u * v / den < v :=
    Nat.div_lt_of_lt_mul (Nat.mul_lt_mul_of_pos_right (by omega) (by omega))
  have hnear := two_mul_nearestEven_le (u * v) (den * Nat.pow 2 (spareBits (u * v / den)))
  have hround : roundUnits (u * v) den * den =
      nearestEven (u * v) (den * Nat.pow 2 (spareBits (u * v / den))) *
        (den * Nat.pow 2 (spareBits (u * v / den))) := by
    rw [roundUnits]
    ring
  rw [← hround, Nat.pow_eq] at hnear
  -- The product falls short of `v` by `v / 2 ^ 53`, and half a step up makes good for no less.
  have hupper : v ≤ 2 ^ (52 + spareBits (u * v / den)) := by
    have hscaled : 2 ^ 53 * (u * v) + den * v ≤ 2 ^ 53 * (den * v) := by
      calc 2 ^ 53 * (u * v) + den * v = (u * 2 ^ 53 + den) * v := by ring
        _ ≤ 2 ^ 53 * den * v := Nat.mul_le_mul_right _ hu
        _ = 2 ^ 53 * (den * v) := Nat.mul_assoc ..
    have hreach : den * v ≤ roundUnits (u * v) den * den :=
      (Nat.mul_comm den v).trans_le (Nat.mul_le_mul_right _ hge)
    have hgap : den * (2 * v) ≤ den * (2 * 2 ^ (52 + spareBits (u * v / den))) := by
      rw [Nat.pow_add, show den * (2 * (2 ^ 52 * 2 ^ spareBits (u * v / den)))
        = 2 ^ 53 * (den * 2 ^ spareBits (u * v / den)) by ring, Nat.mul_left_comm]
      omega
    exact Nat.le_of_mul_le_mul_left (Nat.le_of_mul_le_mul_left hgap hden) (by decide)
  rcases Nat.eq_zero_or_pos (spareBits (u * v / den)) with hnone | hspare
  · rw [hnone] at hupper
    omega
  · exact absurd (two_pow_le_of_spare hspare) (by omega)

/-- A double so great takes no notice of what is less than half of its step. -/
theorem roundUnits_add_of_lt {k m r : ℕ} (hk : k = 2 ^ m) (hw : Fits w) (hgreat : 2 ^ 53 * k ≤ w)
    (hr : r < k) : roundUnits (w + r) 1 = w := by
  have hle : 2 ^ (53 + m) ≤ w := by rwa [Nat.pow_add, ← hk]
  rw [hk] at hr
  have hpos : 0 < 2 ^ (53 + m) := Nat.two_pow_pos _
  have hspare : m + 1 ≤ spareBits (w + r) := by
    have hlog : 53 + m ≤ (w + r).log2 := (Nat.le_log2 (by omega)).mpr (by omega)
    unfold spareBits
    omega
  have hstep : 2 * r < 2 ^ spareBits (w + r) := by
    have hpow : 2 ^ (m + 1) ≤ 2 ^ spareBits (w + r) := Nat.pow_le_pow_right (by decide) hspare
    rw [Nat.pow_succ] at hpow
    omega
  rcases hw.cases (spareBits (w + r)) with ⟨v, hv⟩ | ⟨-, hlt⟩
  · have hnearest := nearestEven_mul_add v hstep
    rw [← hv] at hnearest
    rw [roundUnits, Nat.one_mul, Nat.div_one, Nat.pow_eq, hnearest, ← hv]
  · exfalso
    have hlead : 2 ^ (52 + spareBits (w + r)) ≤ w + r := two_pow_le_of_spare (by omega)
    have hdvd : 2 ^ (m + 1) ∣ w := by
      obtain ⟨c, t, hc, rfl⟩ := hw
      have ht : 53 + m < 53 + t := by
        rw [← Nat.pow_lt_pow_iff_right (Nat.one_lt_two)]
        calc 2 ^ (53 + m) ≤ c * 2 ^ t := hle
          _ < 2 ^ 53 * 2 ^ t := Nat.mul_lt_mul_of_pos_right hc (Nat.two_pow_pos t)
          _ = 2 ^ (53 + t) := (Nat.pow_add ..).symm
      exact (Nat.pow_dvd_pow 2 (by omega)).mul_left c
    have hgap : 2 ^ (m + 1) ≤ 2 ^ (52 + spareBits (w + r)) - w :=
      Nat.le_of_dvd (by omega) (Nat.dvd_sub (Nat.pow_dvd_pow 2 (by omega)) hdvd)
    rw [Nat.pow_succ] at hgap
    omega

end Rounding

/-! ### Products without a minus sign -/

/-- A double without a minus sign. -/
inductive Unsigned : Binary64 → Prop
  | nan : Unsigned nan
  | infinite : Unsigned (infinite false)
  | finite {units : ℕ} (hfits : Fits units) : Unsigned (finite false units)

/-- From one up to infinity. -/
inductive AtLeastOne : Binary64 → Prop
  | infinite : AtLeastOne (infinite false)
  | finite {units : ℕ} (hle : one ≤ units) : AtLeastOne (finite false units)

/-- From zero up to one. -/
inductive AtMostOne : Binary64 → Prop
  | finite {units : ℕ} (hle : units ≤ one) : AtMostOne (finite false units)

section Product

variable {x y : Binary64}

theorem Unsigned.abs_eq (hx : Unsigned x) : x.abs = x := by
  cases hx <;> rfl

theorem unsigned_ofUnits (num : ℕ) {den : ℕ} (hden : 0 < den) :
    Unsigned (ofUnits false num den) := by
  rw [ofUnits]
  split
  · exact .finite (fits_roundUnits num hden)
  · exact .infinite

theorem mul_finite (s t : Bool) (u v : ℕ) :
    (finite s u).mul (finite t v) = ofUnits (s != t) (u * v) one := by
  rw [mul]

/-- The product of two magnitudes has no minus sign either, and is rounded. -/
theorem unsigned_mul_abs (x y : Binary64) : Unsigned (x.abs.mul y.abs) := by
  have hinfinite (units : ℕ) :
      Unsigned (if units = 0 then nan else Binary64.infinite (false != false)) := by
    split
    · exact .nan
    · exact .infinite
  cases x with
  | nan => cases y <;> exact .nan
  | infinite negative =>
    cases y with
    | nan => exact .nan
    | infinite negative => exact .infinite
    | finite negative units => exact hinfinite units
  | finite negative units =>
    cases y with
    | nan => exact .nan
    | infinite negative => exact hinfinite units
    | finite negative other =>
      rw [abs, abs, mul_finite]
      exact unsigned_ofUnits (units * other) one_pos

theorem AtLeastOne.mul (hx : AtLeastOne x) (hy : AtLeastOne y) : AtLeastOne (x.mul y) := by
  have hinfinite {units : ℕ} (hle : one ≤ units) :
      AtLeastOne (if units = 0 then nan else Binary64.infinite (false != false)) := by
    rw [if_neg (one_pos.trans_le hle).ne']
    exact .infinite
  cases hx with
  | infinite =>
    cases hy with
    | infinite => exact .infinite
    | finite hle => exact hinfinite hle
  | @finite u hu =>
    cases hy with
    | infinite => exact hinfinite hu
    | @finite v hv =>
      have hround : one ≤ roundUnits (u * v) one :=
        le_roundUnits one_pos fits_one (Nat.mul_le_mul hu hv)
      rw [mul_finite, ofUnits]
      split
      · exact .finite hround
      · exact .infinite

theorem AtMostOne.mul (hx : AtMostOne x) (hy : AtMostOne y) : AtMostOne (x.mul y) := by
  obtain ⟨hu⟩ := hx
  obtain ⟨hv⟩ := hy
  rw [mul_finite, ofUnits_of_le _ fits_one one_lt_overflow (Nat.mul_le_mul hu hv)]
  exact .finite (roundUnits_le fits_one (Nat.mul_le_mul hu hv))

/-- A finite number times a magnitude is a number unless that is none, or nothing meets infinity. -/
theorem finite_mul_eq_nan_iff (u : ℕ) (hy : y.abs = y) :
    (finite false u).mul y = nan ↔ y = nan ∨ u = 0 ∧ y = infinite false := by
  cases y with
  | nan => exact ⟨fun _ ↦ .inl rfl, fun _ ↦ rfl⟩
  | infinite negative =>
    rw [← hy, abs]
    rcases Nat.eq_zero_or_pos u with rfl | hu
    · exact ⟨fun _ ↦ .inr ⟨rfl, rfl⟩, fun _ ↦ rfl⟩
    · simp [mul, hu.ne']
  | finite negative v =>
    rw [mul_finite, ofUnits]
    split <;> simp

end Product

section Power

variable {x base : Binary64} {P : Binary64 → Prop}

/-- What multiplication keeps, taking powers keeps. -/
theorem powAux_of_mul (hmul : ∀ x y, P x → P y → P (x.mul y)) (n : ℕ) (hx : P x) (hbase : P base) :
    P (powAux x base n) := by
  induction n using Nat.strong_induction_on generalizing x base with
  | _ n ih =>
    have hstep : P (if n % 2 = 1 then x.mul base else x) := by
      split
      · exact hmul x base hx hbase
      · exact hx
    rw [powAux]
    split
    · exact hstep
    · exact ih (n / 2) (by omega) hstep (hmul base base hbase hbase)

theorem pow_of_mul (hmul : ∀ x y, P x → P y → P (x.mul y)) (hone : P (ofNat 1)) (hbase : P base)
    (n : ℕ) : P (base.pow n) :=
  powAux_of_mul hmul n hone hbase

theorem ofNat_one : ofNat 1 = finite false one := by
  rw [ofNat, ofRatio, Nat.one_mul]
  exact (congrArg (ofUnits false · 1) (Nat.mul_one one)).symm.trans
    (ofUnits_of_fits false Nat.one_pos fits_one one_lt_overflow)

theorem mul_nan (x : Binary64) : x.mul nan = nan := by
  cases x <;> rfl

theorem powAux_nan (x : Binary64) {n : ℕ} (hn : 0 < n) : powAux x nan n = nan := by
  induction n using Nat.strong_induction_on generalizing x with
  | _ n ih =>
    rw [powAux]
    split
    · rw [if_pos (by omega), mul_nan]
    · rw [mul_nan]
      exact ih (n / 2) (by omega) _ (by omega)

theorem pow_zero (base : Binary64) : base.pow 0 = ofNat 1 := by
  rw [pow, powAux, dif_pos (Nat.zero_div 2), if_neg (by decide)]

theorem pow_nan {n : ℕ} (hn : 0 < n) : nan.pow n = nan :=
  powAux_nan (ofNat 1) hn

/-- Powers of a magnitude that is a number are numbers: all factors lie on one side of one, so
infinity does not meet zero. -/
theorem pow_abs_ne_nan (hbase : base ≠ nan) (n : ℕ) : base.abs.pow n ≠ nan := by
  have habove (h : AtLeastOne base.abs) : base.abs.pow n ≠ nan := by
    have hpow : AtLeastOne (base.abs.pow n) :=
      pow_of_mul (fun _ _ ↦ AtLeastOne.mul) (ofNat_one ▸ .finite le_rfl) h n
    rintro heq
    cases heq ▸ hpow
  have hbelow (h : AtMostOne base.abs) : base.abs.pow n ≠ nan := by
    have hpow : AtMostOne (base.abs.pow n) :=
      pow_of_mul (fun _ _ ↦ AtMostOne.mul) (ofNat_one ▸ .finite le_rfl) h n
    rintro heq
    cases heq ▸ hpow
  cases base with
  | nan => exact absurd rfl hbase
  | infinite negative => exact habove .infinite
  | finite negative units =>
    rcases le_total one units with hle | hle
    · exact habove (.finite hle)
    · exact hbelow (.finite hle)

/-- The power of a magnitude is a magnitude. -/
theorem abs_pow_abs (base : Binary64) (n : ℕ) : (base.abs.pow n).abs = base.abs.pow n := by
  refine pow_of_mul (P := fun x ↦ x.abs = x) (fun x y hx hy ↦ ?_) ?_ ?_ n
  · rw [← hx, ← hy]
    exact (unsigned_mul_abs x y).abs_eq
  · rw [ofNat_one, abs]
  · cases base <;> rfl

end Power

end Binary64

end Errand
