import Errand.Proofs.Json.Grammar
import Errand.Text.Decimal

/-!
Numbers are read back from their decimals. The digits of a number begin with no idle zero
(`isWhole_toString`), and both ways of reading them come to the number, since on the way no more is
read than what it comes to (`appendDigits_map`, `readDigits_of_lt`): in a text (`read_toString`)
and in a document (`readUnsigned_toString`).
-/

set_option autoImplicit false

namespace Errand

theorem toList_toString (n : ℕ) : (toString n).toList = Nat.toDigits 10 n := by
  rw [Nat.toString_eq_ofList_toDigits, String.toList_ofList]

/-- Reading more digits does not make a number less. -/
theorem le_ofDigitChars (digits : List Char) (n : ℕ) : n ≤ Nat.ofDigitChars 10 digits n := by
  induction digits generalizing n with
  | nil => rw [Nat.ofDigitChars_nil]
  | cons d digits ih =>
    rw [Nat.ofDigitChars_cons]
    exact Nat.le_trans (by omega) (ih _)

/-! ### In texts -/

namespace Decimal

theorem readDigits_of_lt {bound n : ℕ} {digits : List Char}
    (hdigits : ∀ d ∈ digits, d.isDigit = true) (hbound : Nat.ofDigitChars 10 digits n < bound) :
    readDigits bound n digits = .ok (Nat.ofDigitChars 10 digits n) := by
  induction digits generalizing n with
  | nil => rw [readDigits, Nat.ofDigitChars_nil]
  | cons d digits ih =>
    obtain ⟨hd, hmore⟩ := List.forall_mem_cons.mp hdigits
    rw [Nat.ofDigitChars_cons] at hbound ⊢
    have hlonger := (le_ofDigitChars digits _).trans_lt hbound
    rw [readDigits, if_pos hd]
    exact (if_pos hlonger).trans (ih hmore hbound)

theorem read_toString {bound n : ℕ} (hn : n < bound) : read bound (toString n) = .ok n := by
  have hdigits : ∀ d ∈ Nat.toDigits 10 n, d.isDigit = true :=
    fun d hd ↦ Nat.isDigit_of_mem_toDigits (by decide) (by decide) hd
  have hread : readDigits bound 0 (Nat.toDigits 10 n) = .ok n := by
    rw [readDigits_of_lt hdigits (by rwa [Nat.ofDigitChars_ten_toDigits]),
      Nat.ofDigitChars_ten_toDigits]
  rw [read, toList_toString]
  rcases hcons : Nat.toDigits 10 n with _ | ⟨d, digits⟩
  · exact absurd hcons Nat.toDigits_ne_nil
  · rw [hcons] at hdigits hread
    have hplus : d ≠ '+' := by
      rintro rfl
      exact absurd (hdigits '+' List.mem_cons_self) (by decide)
    split
    case h_1 h => cases h
    case h_2 h => exact absurd (List.cons.inj h).1 hplus
    case h_3 h => exact absurd (List.cons.inj h).1 hplus
    case h_4 => exact hread

end Decimal

/-! ### In documents -/

namespace Json

/-- No digit precedes a decimal in vain. -/
theorem isWhole_toString (n : ℕ) : IsWhole (toString n).toList := by
  rw [toList_toString]
  induction n using Nat.strongRecOn with
  | ind n ih =>
    by_cases hn : n < 10
    · rw [Nat.toDigits_of_lt_base hn]
      rcases Nat.eq_zero_or_pos n with rfl | hpos
      · exact .zero
      · have hdigit : ∀ n < 10, 0 < n → n.digitChar.isDigit = true ∧ n.digitChar ≠ '0' := by decide
        obtain ⟨hd, hzero⟩ := hdigit n hn hpos
        exact .digits hd hzero nofun
    · have hlast : AreDigits [(n % 10).digitChar] := by
        have hdigit : ∀ n < 10, AreDigits [n.digitChar] := by
          simp only [AreDigits, List.forall_mem_singleton]
          decide
        exact hdigit _ (Nat.mod_lt n (by decide))
      have hfront := ih (n / 10) (by omega)
      rw [Nat.toDigits_of_base_le (by decide) (Nat.le_of_not_lt hn)]
      generalize hdigits : Nat.toDigits 10 (n / 10) = digits at hfront
      cases hfront with
      | zero =>
        have hvalue := Nat.ofDigitChars_ten_toDigits (n := n / 10)
        rw [hdigits] at hvalue
        have hsmall : n / 10 = 0 := hvalue.symm
        omega
      | digits hd hzero hmore =>
        exact .digits hd hzero (List.forall_mem_append.mpr ⟨hmore, hlast⟩)

theorem appendDigits_map {digits : List Char} (hdigits : AreDigits digits) {n : ℕ}
    (hn : Nat.ofDigitChars 10 digits n < Nat.pow 2 64) :
    appendDigits n (digits.map byte) = (Nat.ofDigitChars 10 digits n, 0) := by
  induction digits generalizing n with
  | nil => rw [Nat.ofDigitChars_nil, List.map_nil, appendDigits, List.foldl_nil]
  | cons d digits ih =>
    obtain ⟨hd, hmore⟩ := List.forall_mem_cons.mp hdigits
    obtain ⟨-, -, hvalue⟩ := digit_cases hd
    rw [Nat.ofDigitChars_cons, ← hvalue] at hn ⊢
    have hfits := (le_ofDigitChars digits _).trans_lt hn
    rw [← ih hmore hn, List.map_cons]
    simp only [appendDigits, List.foldl_cons, hfits, and_self, if_true]

theorem readAfterWhole_ends {rest : List UInt8} (hrest : EndsDocument rest) (n : ℕ) :
    readAfterWhole false n 0 rest = .ok (.whole n, rest) := by
  cases rest with
  | nil => rfl
  | cons b rest =>
    obtain ⟨hpoint, he, hE⟩ := hrest.ne
    rw [readAfterWhole, if_neg hpoint, if_pos ⟨rfl, he, hE⟩]
    rfl

theorem readUnsigned_toString {n : ℕ} (hn : n < Nat.pow 2 64) {rest : List UInt8}
    (hrest : EndsDocument rest) :
    readUnsigned false (bytesOf (toString n).toList ++ rest) = .ok (.whole n, rest) := by
  have hvalue : Nat.ofDigitChars 10 (toString n).toList 0 = n := by
    rw [toList_toString, Nat.ofDigitChars_ten_toDigits]
  have hwhole := isWhole_toString n
  generalize (toString n).toList = text at hvalue hwhole ⊢
  cases hwhole with
  | zero =>
    obtain rfl : 0 = n := by simpa [Nat.ofDigitChars_cons] using hvalue
    have hafter := readAfterWhole_ends hrest 0
    rw [bytesOf_cons (by decide), List.cons_append, bytesOf_nil, List.nil_append,
      readUnsigned.eq_def]
    cases rest with
    | nil => exact hafter
    | cons b rest => simpa [hrest.endsDigits b rfl] using hafter
  | @digits d digits hd hzero hdigits =>
    obtain ⟨hascii, hdigit, hfirst⟩ := digit_cases hd
    have hzero' : byte d ≠ byte '0' := (byte_inj hascii (by decide)).not.mpr hzero
    obtain ⟨htake, hdrop⟩ := takeWhile_isDigit hdigits hrest.endsDigits
    rw [Nat.ofDigitChars_cons, Nat.mul_zero, Nat.zero_add, ← hfirst] at hvalue
    have happend := appendDigits_map hdigits (hvalue.symm ▸ hn)
    rw [hvalue] at happend
    rw [bytesOf_cons hascii, List.cons_append, readUnsigned.eq_def]
    simp only [if_neg hzero', if_pos hdigit, htake, hdrop, happend, readAfterWhole_ends hrest]

end Json

end Errand
