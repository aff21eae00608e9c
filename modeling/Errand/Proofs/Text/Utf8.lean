import Errand.Text.Utf8
import Mathlib

/-!
Texts are read back from their bytes. The first byte in the encoding of a character tells how many
bytes follow it and bounds the first of these, and all of them stay within the bounds
(`exists_encodeChar`); so the pieces of an encoded text are its characters (`pieces_encodeChars`),
and both ways of decoding give the text back (`decode?_encode`, `decodeLossy_encode`).
-/

set_option autoImplicit false

namespace Errand.Utf8

/-- A byte is known by its number. -/
theorem ofNat_of_eq_toNat {b : UInt8} {n : ℕ} (hn : n = b.toNat) : UInt8.ofNat n = b :=
  hn ▸ UInt8.ofNat_toNat

/-! ### First bytes -/

theorem lead?_one {n : ℕ} (hn : n ≤ 127) : lead? (UInt8.ofNat n) = some ⟨n, 0, 0x80, 0xBF⟩ := by
  have hbyte : (UInt8.ofNat n).toNat = n := UInt8.toNat_ofNat_of_lt (show n < 256 by omega)
  have hlt : UInt8.ofNat n < 0x80 := by
    rw [UInt8.lt_iff_toNat_lt, hbyte]
    exact Nat.lt_succ_of_le hn
  rw [lead?, if_pos hlt, hbyte]

theorem lead?_two {k : ℕ} (hlow : 2 ≤ k) (hk : k < 32) :
    lead? (UInt8.ofNat (k + 192)) = some ⟨k, 1, 0x80, 0xBF⟩ := by
  interval_cases k <;> rfl

theorem exists_lead?_three {k : ℕ} (hk : k < 16) :
    ∃ low high, lead? (UInt8.ofNat (k + 224)) = some ⟨k, 2, low, high⟩ ∧
      low.toNat = (if k = 0 then 0xA0 else 0x80) ∧ high.toNat = if k = 13 then 0x9F else 0xBF := by
  interval_cases k <;> exact ⟨_, _, rfl, rfl, rfl⟩

theorem exists_lead?_four {k : ℕ} (hk : k < 5) :
    ∃ low high, lead? (UInt8.ofNat (k + 240)) = some ⟨k, 3, low, high⟩ ∧
      low.toNat = (if k = 0 then 0x90 else 0x80) ∧ high.toNat = if k = 4 then 0x8F else 0xBF := by
  interval_cases k <;> exact ⟨_, _, rfl, rfl, rfl⟩

/-! ### Bytes that follow -/

/-- A continuation byte within the bounds adds six bits. -/
theorem takeTail_cons {acc n count : ℕ} {low high : UInt8} (rest : List UInt8)
    (hlow : low.toNat ≤ n % 64 + 128) (hhigh : n % 64 + 128 ≤ high.toNat) :
    takeTail acc low high (count + 1) (UInt8.ofNat (n % 64 + 128) :: rest) =
      takeTail (acc * 64 + n % 64) 0x80 0xBF count rest := by
  have hbyte : (UInt8.ofNat (n % 64 + 128)).toNat = n % 64 + 128 :=
    UInt8.toNat_ofNat_of_lt (show n % 64 + 128 < 256 by omega)
  have hbits : tailBits (UInt8.ofNat (n % 64 + 128)) = n % 64 := by
    rw [tailBits, hbyte]
    omega
  have hbetween : between low high (UInt8.ofNat (n % 64 + 128)) = true := by
    simp only [between, Bool.and_eq_true, decide_eq_true_eq, UInt8.le_iff_toNat_le, hbyte]
    exact ⟨hlow, hhigh⟩
  rw [takeTail, if_pos hbetween, hbits]

theorem takeTail_bytes {acc n count : ℕ} (rest : List UInt8) :
    takeTail acc 0x80 0xBF (count + 1) (UInt8.ofNat (n % 64 + 128) :: rest) =
      takeTail (acc * 64 + n % 64) 0x80 0xBF count rest :=
  takeTail_cons rest (Nat.le_add_left _ _)
    (Nat.add_le_add_right (Nat.le_of_lt_succ (Nat.mod_lt n (by decide))) 128)

/-- The encoding of a character is its first byte and those that this one takes. -/
theorem exists_encodeChar (c : Char) : ∃ b bytes, String.utf8EncodeChar c = b :: bytes ∧
    ∀ rest, scan b (bytes ++ rest) = (some c, rest) := by
  have hvalid : c.toNat < 0xD800 ∨ 0xDFFF < c.toNat ∧ c.toNat < 0x110000 := c.valid
  have hvalue (n : ℕ) (hn : n = c.toNat) : Char.ofNat n = c := hn ▸ Char.ofNat_toNat c
  have hval : c.val.toNat = c.toNat := rfl
  simp only [String.utf8EncodeChar, hval]
  split_ifs with h1 h2 h3
  · refine ⟨_, _, rfl, fun rest ↦ ?_⟩
    simp [scan, lead?_one h1, takeTail]
  · refine ⟨_, _, rfl, fun rest ↦ ?_⟩
    have hlead := lead?_two (k := c.toNat / 64 % 32) (by omega) (by omega)
    simp only [scan, hlead, List.cons_append, List.nil_append, takeTail_bytes, takeTail, if_true]
    rw [hvalue _ (by omega)]
  · refine ⟨_, _, rfl, fun rest ↦ ?_⟩
    obtain ⟨low, high, hlead, hlow, hhigh⟩ :=
      exists_lead?_three (k := c.toNat / 4096 % 16) (by omega)
    simp only [scan, hlead, List.cons_append, List.nil_append]
    rw [takeTail_cons _ (by split_ifs at hlow <;> omega) (by split_ifs at hhigh <;> omega),
      takeTail_bytes]
    simp only [takeTail, if_true]
    rw [hvalue _ (by omega)]
  · refine ⟨_, _, rfl, fun rest ↦ ?_⟩
    obtain ⟨low, high, hlead, hlow, hhigh⟩ :=
      exists_lead?_four (k := c.toNat / 262144 % 8) (by omega)
    simp only [scan, hlead, List.cons_append, List.nil_append]
    rw [takeTail_cons _ (by split_ifs at hlow <;> omega) (by split_ifs at hhigh <;> omega),
      takeTail_bytes, takeTail_bytes]
    simp only [takeTail, if_true]
    rw [hvalue _ (by omega)]

/-- The encoding of an ASCII character is one byte, and that of any other has none below 128. -/
theorem encodeChar_of_lt {c : Char} (hc : c.toNat < 128) :
    String.utf8EncodeChar c = [UInt8.ofNat c.toNat] := by
  have hval : c.val.toNat ≤ 127 := Nat.le_of_lt_succ hc
  exact if_pos hval

theorem le_of_mem_encodeChar {c : Char} (hc : 128 ≤ c.toNat) {b : UInt8}
    (hb : b ∈ String.utf8EncodeChar c) : 128 ≤ b.toNat := by
  have hval : ¬ c.val.toNat ≤ 127 := Nat.not_le_of_lt hc
  have hbyte : ∀ k, 128 ≤ k → k < 256 → b = UInt8.ofNat k → 128 ≤ b.toNat := by
    rintro k hlow hhigh rfl
    exact hlow.trans_eq (UInt8.toNat_ofNat_of_lt hhigh).symm
  simp only [String.utf8EncodeChar, if_neg hval] at hb
  split_ifs at hb <;> simp only [List.mem_cons, List.not_mem_nil, or_false] at hb
  · rcases hb with hb | hb <;> exact hbyte _ (by omega) (by omega) hb
  · rcases hb with hb | hb | hb <;> exact hbyte _ (by omega) (by omega) hb
  · rcases hb with hb | hb | hb | hb <;> exact hbyte _ (by omega) (by omega) hb

/-! ### Texts -/

/-- The bytes of a text in pieces. -/
theorem pieces_encodeChars (text : List Char) :
    pieces (text.flatMap String.utf8EncodeChar) = text.map some := by
  induction text with
  | nil => rw [List.flatMap_nil, pieces, List.map_nil]
  | cons c text ih =>
    obtain ⟨b, bytes, hc, hscan⟩ := exists_encodeChar c
    rw [List.flatMap_cons, hc, List.cons_append, pieces, hscan, ih, List.map_cons]

theorem decode?_encode (text : String) : decode? (encode text) = some text := by
  have hwhole : (text.toList.map some).mapM (fun piece ↦ piece) = some text.toList := by
    rw [List.mapM_map]
    exact (List.mapM_pure (f := id)).trans (congrArg some (List.map_id _))
  rw [decode?, encode, pieces_encodeChars, hwhole, Option.map_some, String.ofList_toList]

theorem decodeLossy_encode (text : String) : decodeLossy (encode text) = text := by
  simp [decodeLossy, encode, pieces_encodeChars]

end Errand.Utf8
