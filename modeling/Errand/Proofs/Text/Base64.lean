import Errand.Text.Base64
import Errand.Proofs.Text.Utf8

/-!
Bytes are read back from their digits. Every digit has its value (`digitValue?_digit`) and none is
the padding (`digit_ne_padding`), so the three ways in which a list of bytes can end are told apart
by how much padding stands at the end of its digits (`decode?_encode`).
-/

set_option autoImplicit false

namespace Errand.Base64

theorem digitValue?_digit : ∀ n < 64, digitValue? (digit n) = some n := by decide

theorem digit_ne_padding : ∀ n < 64, digit n ≠ '=' := by decide

section Groups

variable {k l m n : ℕ} (hk : k < 64) (hl : l < 64) (hm : m < 64) (hn : n < 64)
include hk hl

/-- Two digits and two paddings are one byte. -/
theorem decode?_one (hspare : l % 16 = 0) :
    decode? [digit k, digit l, '=', '='] = some [UInt8.ofNat (k * 4 + l / 16)] := by
  simp [decode?, digitValue?_digit k hk, digitValue?_digit l hl, hspare]

include hm

/-- Three digits and a padding are two bytes. -/
theorem decode?_two (hspare : m % 4 = 0) :
    decode? [digit k, digit l, digit m, '='] =
      some [UInt8.ofNat (k * 4 + l / 16), UInt8.ofNat (l % 16 * 16 + m / 4)] := by
  rw [decode?, digitValue?_digit k hk, digitValue?_digit l hl, digitValue?_digit m hm]
  · simp [hspare]
  · exact digit_ne_padding m hm

include hn

/-- Four digits are three bytes. -/
theorem decode?_three (rest : List Char) :
    decode? (digit k :: digit l :: digit m :: digit n :: rest) =
      (decode? rest).map fun more ↦ UInt8.ofNat (k * 4 + l / 16) ::
        UInt8.ofNat (l % 16 * 16 + m / 4) :: UInt8.ofNat (m % 4 * 64 + n) :: more := by
  have hpadding := digit_ne_padding n hn
  rw [decode?, digitValue?_digit k hk, digitValue?_digit l hl, digitValue?_digit m hm,
    digitValue?_digit n hn]
  · rcases decode? rest with _ | more <;> rfl
  · exact fun _ hn _ ↦ hpadding hn
  · exact fun hn _ ↦ hpadding hn

end Groups

theorem decode?_encode (bytes : List UInt8) : decode? (encode bytes) = some bytes := by
  have hbyte (b : UInt8) (n : ℕ) : n = b.toNat → UInt8.ofNat n = b := Utf8.ofNat_of_eq_toNat
  fun_induction encode bytes with
  | case1 => rfl
  | case2 a =>
    have ha := a.toNat_lt
    rw [decode?_one (by omega) (by omega) (by omega), hbyte a _ (by omega)]
  | case3 a b =>
    have ha := a.toNat_lt
    have hb := b.toNat_lt
    rw [decode?_two (by omega) (by omega) (by omega) (by omega), hbyte a _ (by omega),
      hbyte b _ (by omega)]
  | case4 a b c rest ih =>
    have ha := a.toNat_lt
    have hb := b.toNat_lt
    have hc := c.toNat_lt
    rw [decode?_three (by omega) (by omega) (by omega) (by omega), ih, hbyte a _ (by omega),
      hbyte b _ (by omega), hbyte c _ (by omega), Option.map_some]

end Errand.Base64
