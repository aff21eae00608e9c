import Errand.Binary64.Reading
import Errand.Proofs.Duration.Nanoseconds
import Errand.Proofs.Text.Blank
import Mathlib

/-!
Decimal numbers as doubles. A `Numeral` is a decimal number as it is written: perhaps a sign,
digits, and perhaps a point with digits after it. It is read as a ratio of whole numbers that is
rounded once (`Numeral.read?_text`, `ofDecimal_of_places`). Below `2 ^ 23` one rounding is less than
half a billionth (`ofRatio_near`), so a numeral of seconds with nine places at most stands for as
many nanoseconds as it says (`Numeral.ofSeconds?_read?`).
-/

set_option autoImplicit false

namespace Errand

namespace Binary64

/-- A decimal number as it is written. The point may be left out if nothing stands after it, and
either side of it may be empty, but not both. -/
structure Numeral where
  sign : List Char
  whole : List Char
  point : List Char
  fraction : List Char
  sign_mem : sign ∈ [[], ['+'], ['-']]
  point_eq : point = ['.'] ∨ point = [] ∧ fraction = []
  whole_digits : ∀ d ∈ whole, d.isDigit = true
  fraction_digits : ∀ d ∈ fraction, d.isDigit = true
  some_digit : whole ++ fraction ≠ []

namespace Numeral

variable (n : Numeral)

/-- All but the sign. -/
def body : List Char := n.whole ++ (n.point ++ n.fraction)

def text : List Char := n.sign ++ n.body

def negative : Bool := n.sign = ['-']

/-- How many digits stand after the point. -/
def places : ℕ := n.fraction.length

/-- What stands before the point. -/
def wholePart : ℕ := Nat.ofDigitChars 10 n.whole 0

/-- The digits without the point. -/
def digits : ℕ := Nat.ofDigitChars 10 (n.whole ++ n.fraction) 0

/-- The number in billionths, without its sign, if it has nine places at most. -/
def billionths : ℕ :=
  n.wholePart * 10 ^ 9 + Nat.ofDigitChars 10 n.fraction 0 * 10 ^ (9 - n.places)

/-- The first character after the sign is a digit or the point. -/
theorem body_head : ∃ c rest, n.body = c :: rest ∧ (c.isDigit = true ∨ c = '.') := by
  rw [body]
  rcases hwhole : n.whole with _ | ⟨d, whole⟩
  · rcases n.point_eq with hpoint | ⟨-, hfraction⟩
    · exact ⟨'.', n.fraction, by rw [hpoint]; rfl, .inr rfl⟩
    · exact absurd (by rw [hwhole, hfraction]; rfl) n.some_digit
  · exact ⟨d, _, rfl, .inl (n.whole_digits d (hwhole ▸ List.mem_cons_self))⟩

/-- Neither a second sign nor a letter stands there. -/
theorem ne_of_head {c : Char} (hc : c.isDigit = true ∨ c = '.') :
    c ≠ '-' ∧ c ≠ '+' ∧ c.toLower ≠ 'i' ∧ c.toLower ≠ 'n' := by
  rcases hc with hdigit | rfl
  · have hupper : ¬c.isUpper = true := by
      simp only [Char.isDigit, Char.isUpper, ge_iff_le, Bool.and_eq_true, decide_eq_true_eq,
        UInt32.le_iff_toNat_le] at hdigit ⊢
      simp at hdigit ⊢
      omega
    rw [Char.toLower_eq_of_not_isUpper hupper]
    refine ⟨?_, ?_, ?_, ?_⟩ <;> rintro rfl <;> exact absurd hdigit (by decide)
  · decide

theorem takeSign_text : takeSign n.text = (n.negative, n.body) := by
  obtain ⟨c, rest, hbody, hc⟩ := n.body_head
  obtain ⟨hminus, hplus, -⟩ := ne_of_head hc
  have hsign := n.sign_mem
  simp only [List.mem_cons, List.not_mem_nil, or_false] at hsign
  rw [text, negative]
  rcases hsign with h | h | h
  · rw [h, hbody, List.nil_append, takeSign.eq_def]
    split
    case h_1 heq => exact absurd (List.cons.inj heq).1 hminus
    case h_2 heq => exact absurd (List.cons.inj heq).1 hplus
    case h_3 => rfl
  · rw [h]
    rfl
  · rw [h]
    rfl

/-- Digits up to the point, or to the end. -/
theorem readDecimal?_body (negative : Bool) :
    readDecimal? negative n.body
      = some (ofDecimal negative n.digits (n.whole.length + n.places) (-n.places)) := by
  have hends : ∀ c ∈ (n.point ++ n.fraction).head?, c.isDigit = false := by
    rcases n.point_eq with hpoint | ⟨hpoint, hfraction⟩
    · rw [hpoint]
      rintro _ ⟨⟩
      rfl
    · rw [hpoint, hfraction]
      nofun
  have htake := List.takeWhile_eq_self_iff.mpr n.fraction_digits
  have hdrop := List.dropWhile_eq_nil_iff.mpr n.fraction_digits
  have hsome : n.whole.length + n.fraction.length ≠ 0 := by
    rw [← List.length_append]
    exact List.length_eq_zero_iff.not.mpr n.some_digit
  have hdigits : digitsValue (digitsValue 0 n.whole) n.fraction = n.digits :=
    (Nat.ofDigitChars_append 0).symm
  rw [readDecimal?, body, takeWhile_append_of_ends n.whole_digits hends,
    dropWhile_append_of_ends n.whole_digits hends]
  rcases n.point_eq with hpoint | ⟨hpoint, hfraction⟩
  · rw [hpoint, List.singleton_append]
    simp only [htake, hdrop, if_neg hsome, readExponent?, Option.bind_eq_bind, Option.bind_some,
      hdigits, zero_sub, places]
  · rw [hpoint, hfraction]
    rw [hfraction] at hsome hdigits
    simp only [List.append_nil, if_neg hsome, readExponent?, Option.bind_eq_bind, Option.bind_some,
      hdigits, zero_sub, places, hfraction]

theorem read?_text : read? (String.ofList n.text)
    = some (ofDecimal n.negative n.digits (n.whole.length + n.places) (-n.places)) := by
  obtain ⟨c, rest, hbody, hc⟩ := n.body_head
  obtain ⟨-, -, hi, hn⟩ := ne_of_head hc
  have hword {word : String} {d : Char} {more : List Char} (hd : c.toLower ≠ d)
      (hcons : word.toList = d :: more) :
      String.ofList (n.body.map Char.toLower) ≠ word := by
    intro heq
    rw [← heq, String.toList_ofList, hbody, List.map_cons] at hcons
    exact hd (List.cons.inj hcons).1
  rw [read?, String.toList_ofList, takeSign_text]
  dsimp only
  rw [if_neg (not_or.mpr ⟨hword hi rfl, hword hi rfl⟩), if_neg (hword hn rfl),
    readDecimal?_body]

end Numeral

/-! ### One rounding -/

-- Both are too great to be written out.
attribute [local irreducible] one overflow

/-- With a point among its digits a decimal is rounded as the ratio that it is. -/
theorem ofDecimal_of_places (negative : Bool) (digits : ℕ) {count places : ℕ}
    (hcount : places ≤ count) :
    ofDecimal negative digits count (-places) = ofRatio negative digits (10 ^ places) := by
  rw [ofDecimal]
  split_ifs with hzero hgreat hsmall hwhole
  · rw [hzero, ofRatio, Nat.zero_mul, ofUnits_zero]
  · omega
  · omega
  · obtain rfl : places = 0 := by omega
    rw [Nat.cast_zero, neg_zero, Int.toNat_zero, Nat.pow_eq, Nat.pow_zero, Nat.mul_one]
  · rw [neg_neg, Int.toNat_natCast, Nat.pow_eq]

/-- Below `2 ^ 23` seconds one rounding misses by less than half a nanosecond. -/
theorem ofRatio_near (negative : Bool) {num den nanos : ℕ} (hden : 0 < den)
    (hnanos : num * nanosPerSecond = nanos * den) (hlt : nanos < 2 ^ 23 * nanosPerSecond) :
    ofRatio negative num den = finite negative (roundUnits (num * one) den) ∧
      |Duration.inNanos (roundUnits (num * one) den) - nanos| < 1 / 2 := by
  obtain ⟨k, hone, hgreat⟩ : ∃ k, one = 2 ^ k * 2 ^ 30 ∧ 2 ^ 23 * one = 2 ^ (53 + k) :=
    ⟨1074 - 30, one_eq_mul (by decide), two_pow_mul_one rfl⟩
  have hpos : (0 : ℚ) < den := Nat.cast_pos.mpr hden
  have hscale : (0 : ℚ) < nanosPerSecond / one :=
    div_pos Duration.nanosPerSecond_cast_pos Duration.one_cast_pos
  have hnum : num < 2 ^ 23 * den := by
    refine Nat.lt_of_mul_lt_mul_right (a := nanosPerSecond) ?_
    calc num * nanosPerSecond = nanos * den := hnanos
      _ < 2 ^ 23 * nanosPerSecond * den := Nat.mul_lt_mul_of_pos_right hlt hden
      _ = 2 ^ 23 * den * nanosPerSecond := Nat.mul_right_comm ..
  have hunits : num * one < 2 ^ 23 * one * den := by
    rw [Nat.mul_right_comm]
    exact Nat.mul_lt_mul_of_pos_right hnum one_pos
  constructor
  · exact ofUnits_of_le negative (fits_two_pow 23).mul_one
      (two_pow_mul_one_lt_overflow (by decide)) hunits.le
  · have hround := abs_roundUnits_sub_le_of_lt (k := k) hden (hgreat ▸ hunits)
    have hvalue : ((num * one : ℕ) / den : ℚ) * (nanosPerSecond / one) = nanos := by
      have hcast : (num * nanosPerSecond : ℚ) = nanos * den := mod_cast hnanos
      have := Duration.one_cast_pos
      push_cast
      field_simp
      linarith
    calc |Duration.inNanos (roundUnits (num * one) den) - nanos|
        = |(roundUnits (num * one) den : ℚ) - (num * one : ℕ) / den| * (nanosPerSecond / one) := by
          rw [Duration.inNanos, ← hvalue, ← sub_mul, abs_mul, abs_of_pos hscale]
      _ ≤ 2 ^ k / 2 * (nanosPerSecond / one) := mul_le_mul_of_nonneg_right hround hscale.le
      _ = nanosPerSecond / 2 ^ 31 := by
        rw [hone]
        push_cast
        field_simp
        ring
      _ < 1 / 2 := by norm_num [nanosPerSecond]

/-- What is read is rounded. -/
theorem rounded_ofDecimal (negative : Bool) (digits count : ℕ) (exponent : ℤ) :
    Rounded (ofDecimal negative digits count exponent) := by
  have hzero : Rounded (finite negative 0) := by
    rintro _ _ ⟨⟩
    exact fits_of_lt (by decide)
  rw [ofDecimal]
  split_ifs
  · exact hzero
  · nofun
  · exact hzero
  · exact rounded_ofUnits negative _ Nat.one_pos
  · exact rounded_ofUnits negative _ (Nat.pow_pos (by decide))

theorem rounded_of_read? {text : String} {x : Binary64} (h : read? text = some x) :
    Rounded x := by
  rw [read?] at h
  dsimp only at h
  split_ifs at h
  · cases h
    nofun
  · cases h
    nofun
  · rw [readDecimal?] at h
    dsimp only at h
    split_ifs at h
    obtain ⟨exponent, -, hx⟩ := Option.bind_eq_some_iff.mp h
    rw [← Option.some.inj hx]
    exact rounded_ofDecimal _ _ _ _

namespace Numeral

/-- Digits are worth less than a one with as many zeros. -/
theorem ofDigitChars_lt {digits : List Char} (hdigits : ∀ d ∈ digits, d.isDigit = true) (n : ℕ) :
    Nat.ofDigitChars 10 digits n < (n + 1) * 10 ^ digits.length := by
  induction digits generalizing n with
  | nil => simp
  | cons d digits ih =>
    obtain ⟨hd, hmore⟩ := List.forall_mem_cons.mp hdigits
    have hvalue : d.toNat - '0'.toNat < 10 := by
      simp only [Char.isDigit, ge_iff_le, Bool.and_eq_true, decide_eq_true_eq,
        UInt32.le_iff_toNat_le] at hd
      simp at hd ⊢
      omega
    rw [Nat.ofDigitChars_cons, List.length_cons, Nat.pow_succ', ← Nat.mul_assoc]
    exact (ih hmore _).trans_le (Nat.mul_le_mul_right _ (by omega))

variable (n : Numeral)

/-- The digits and the places make the number. -/
theorem digits_mul (hplaces : n.places ≤ 9) :
    n.digits * nanosPerSecond = n.billionths * 10 ^ n.places := by
  have hdigits : n.digits = 10 ^ n.places * n.wholePart + Nat.ofDigitChars 10 n.fraction 0 := by
    rw [digits, Nat.ofDigitChars_append, Nat.ofDigitChars_eq_ofDigitChars_zero]
    rfl
  have hpow : 10 ^ (9 - n.places) * 10 ^ n.places = 10 ^ 9 := Nat.pow_sub_mul_pow 10 hplaces
  calc n.digits * nanosPerSecond
      = n.wholePart * 10 ^ 9 * 10 ^ n.places + Nat.ofDigitChars 10 n.fraction 0 * 10 ^ 9 := by
        rw [hdigits, nanosPerSecond]
        ring
    _ = n.billionths * 10 ^ n.places := by
        rw [billionths, Nat.add_mul, Nat.mul_assoc _ (10 ^ (9 - n.places)), hpow]

theorem billionths_lt (hwhole : n.wholePart < 2 ^ 23) (hplaces : n.places ≤ 9) :
    n.billionths < 2 ^ 23 * nanosPerSecond := by
  have hfraction : Nat.ofDigitChars 10 n.fraction 0 * 10 ^ (9 - n.places) < 10 ^ 9 := by
    calc Nat.ofDigitChars 10 n.fraction 0 * 10 ^ (9 - n.places)
        < 10 ^ n.places * 10 ^ (9 - n.places) := by
          refine Nat.mul_lt_mul_of_pos_right ?_ (Nat.pow_pos (by decide))
          have hlt := ofDigitChars_lt n.fraction_digits 0
          rwa [Nat.zero_add, Nat.one_mul] at hlt
      _ = 10 ^ 9 := by rw [← Nat.pow_add, Nat.add_sub_cancel' hplaces]
  rw [billionths, nanosPerSecond]
  omega

/-- A numeral of seconds below `2 ^ 23`, with nine places at most, stands for the very span, or for
none if it is below zero. -/
theorem ofSeconds?_read? (hwhole : n.wholePart < 2 ^ 23) (hplaces : n.places ≤ 9) :
    (((read? (String.ofList n.text)).bind Duration.ofSeconds?).map Duration.nanos) =
      if n.negative = true ∧ n.billionths ≠ 0 then none else some n.billionths := by
  have hlt := n.billionths_lt hwhole hplaces
  have hvalue := n.digits_mul hplaces
  obtain ⟨hround, hnear⟩ := ofRatio_near n.negative (Nat.pow_pos (by decide)) hvalue hlt
  rw [read?_text, Option.bind_some, ofDecimal_of_places _ _ (Nat.le_add_left ..), hround]
  split_ifs with hbelow
  · obtain ⟨hnegative, hsome⟩ := hbelow
    have hunits : roundUnits (n.digits * one) (10 ^ n.places) ≠ 0 := by
      intro hnone
      have hone : (1 : ℚ) ≤ n.billionths := Nat.one_le_cast.mpr (Nat.pos_of_ne_zero hsome)
      rw [hnone, Duration.inNanos, Nat.cast_zero, zero_mul, zero_sub, abs_lt] at hnear
      linarith [hnear.1]
    rw [hnegative, Duration.ofSeconds?_negative hunits, Option.map_none]
  · have hsign : n.negative = false ∨ roundUnits (n.digits * one) (10 ^ n.places) = 0 := by
      refine (Bool.eq_false_or_eq_true n.negative).symm.imp_right fun hnegative ↦ ?_
      have hzero : n.billionths = 0 := by_contra fun hsome ↦ hbelow ⟨hnegative, hsome⟩
      have hnone : n.digits = 0 := by
        rw [hzero, Nat.zero_mul] at hvalue
        exact (Nat.mul_eq_zero.mp hvalue).resolve_right (by decide)
      rw [hnone, Nat.zero_mul, roundUnits_zero]
    have hlimit : n.billionths < Duration.limit := hlt.trans (by decide)
    rw [Duration.ofSeconds?_of_abs_sub_lt (d := ⟨n.billionths, hlimit⟩) hsign hnear,
      Option.map_some]

end Numeral

end Binary64

end Errand
