import Errand.Proofs.Text.Utf8
import Errand.Text.Form

/-!
Forms are read back as they were written. What stands for a byte gives that byte back whatever
follows it (`decodeBytes_encodeByte`), so a name or a value is read back from its own text
(`decodePart_encodePart`). The marks between the parts stand in none of them
(`mark_notMem_encodePart`): the text of a form falls into its pairs, and each of these into its name
and its value (`decode_encode`).
-/

set_option autoImplicit false

namespace Errand.Form

/-! ### Bytes -/

/-- The characters that write a form, besides its marks: none of them is one. -/
def isWritten (c : Char) : Bool := c.isAlphanum || "*-._+%".toList.contains c

theorem hexValue?_hexDigit : ∀ n < 16, hexValue? (hexDigit n) = some n := by decide

theorem isWritten_hexDigit : ∀ n < 16, isWritten (hexDigit n) = true := by decide

/-- A byte that stands for itself is an ASCII character that no reading changes. -/
theorem plain_cases : ∀ n < 256, isPlain (UInt8.ofNat n) = true →
    n < 128 ∧ Char.ofNat n ≠ '%' ∧ Char.ofNat n ≠ '+' ∧ isWritten (Char.ofNat n) = true := by
  decide +kernel

theorem isPlain_toNat {b : UInt8} (hb : isPlain b = true) :
    b.toNat < 128 ∧ Char.ofNat b.toNat ≠ '%' ∧ Char.ofNat b.toNat ≠ '+' ∧
      isWritten (Char.ofNat b.toNat) = true :=
  plain_cases b.toNat b.toNat_lt (UInt8.ofNat_toNat.symm ▸ hb)

theorem lt_of_isWritten {c : Char} (hc : isWritten c = true) : c.toNat < 128 := by
  have hval : c.toNat = c.val.toNat := rfl
  simp only [isWritten, Char.isAlphanum, Char.isAlpha, Char.isUpper, Char.isLower, Char.isDigit,
    UInt32.le_iff_toNat_le, ge_iff_le, Bool.or_eq_true, Bool.and_eq_true, decide_eq_true_eq,
    List.contains_iff_mem] at hc
  rcases hc with ((h | h) | h) | h
  · exact hval.trans_lt (h.2.trans_lt (by decide))
  · exact hval.trans_lt (h.2.trans_lt (by decide))
  · exact hval.trans_lt (h.2.trans_lt (by decide))
  · have hmarks : ∀ c ∈ "*-._+%".toList, c.toNat < 128 := by simp
    exact hmarks c h

theorem isWritten_of_mem_encodeByte {b : UInt8} {c : Char} (hc : c ∈ encodeByte b) :
    isWritten c = true := by
  have hbyte : b.toNat < 256 := b.toNat_lt
  unfold encodeByte at hc
  split_ifs at hc with hplain hspace
  · rw [List.mem_singleton.mp hc]
    exact (isPlain_toNat hplain).2.2.2
  · rw [List.mem_singleton.mp hc]
    rfl
  · rw [escaped, List.mem_cons, List.mem_cons, List.mem_singleton] at hc
    rcases hc with rfl | rfl | rfl
    · rfl
    · exact isWritten_hexDigit _ (by omega)
    · exact isWritten_hexDigit _ (by omega)

/-- A character other than a percent sign stands for its bytes, a plus sign for a space. -/
theorem decodeBytes_cons {c : Char} (hc : c ≠ '%') (rest : List Char) :
    decodeBytes (c :: rest) =
      (if c = '+' then [0x20] else String.utf8EncodeChar c) ++ decodeBytes rest := by
  rw [decodeBytes]
  rintro h l rest rfl
  exact absurd rfl hc

/-- The byte is read back from what stands for it. -/
theorem decodeBytes_encodeByte (b : UInt8) (rest : List Char) :
    decodeBytes (encodeByte b ++ rest) = b :: decodeBytes rest := by
  have hbyte : b.toNat < 256 := b.toNat_lt
  unfold encodeByte
  split_ifs with hplain hspace
  · obtain ⟨hascii, hpercent, hplus, -⟩ := isPlain_toNat hplain
    have hchar : (Char.ofNat b.toNat).toNat = b.toNat := by
      rw [Char.toNat_ofNat, if_pos (Or.inl (by omega))]
    rw [List.singleton_append, decodeBytes_cons hpercent, if_neg hplus,
      Utf8.encodeChar_of_lt (hchar.trans_lt hascii), hchar, UInt8.ofNat_toNat,
      List.singleton_append]
  · rw [List.singleton_append, decodeBytes_cons (by decide), if_pos rfl, hspace,
      List.singleton_append]
  · rw [escaped, List.cons_append, List.cons_append, List.singleton_append, decodeBytes,
      hexValue?_hexDigit _ (by omega), hexValue?_hexDigit _ (by omega)]
    simp only [Utf8.ofNat_of_eq_toNat (Nat.div_add_mod b.toNat 16)]

/-! ### Names and values -/

theorem decodeBytes_flatMap_encodeByte (bytes : List UInt8) :
    decodeBytes (bytes.flatMap encodeByte) = bytes := by
  induction bytes with
  | nil => rw [List.flatMap_nil, decodeBytes]
  | cons b bytes ih => rw [List.flatMap_cons, decodeBytes_encodeByte, ih]

theorem decodePart_encodePart (text : String) : decodePart (encodePart text) = text := by
  rw [decodePart, encodePart, decodeBytes_flatMap_encodeByte, Utf8.decodeLossy_encode]

theorem mark_notMem_encodePart {mark : Char} (hmark : isWritten mark = false) (text : String) :
    mark ∉ encodePart text := by
  intro hmem
  obtain ⟨b, -, hb⟩ := List.mem_flatMap.mp hmem
  rw [isWritten_of_mem_encodeByte hb] at hmark
  cases hmark

/-! ### Pairs -/

theorem decodePair_encodePair (pair : String × String) : decodePair (encodePair pair) = pair := by
  have hname : ∀ c ∈ encodePart pair.1, decide (c ≠ '=') = true := by
    intro c hc
    simp only [ne_eq, decide_not, Bool.not_eq_true', decide_eq_false_iff_not]
    rintro rfl
    exact mark_notMem_encodePart (by decide) _ hc
  rw [decodePair, encodePair, List.takeWhile_append_of_pos hname,
    List.dropWhile_append_of_pos hname]
  simp [decodePart_encodePart]

theorem mark_notMem_encodePair {mark : Char} (hmark : isWritten mark = false) (hequals : mark ≠ '=')
    (pair : String × String) : mark ∉ encodePair pair := by
  rw [encodePair, List.mem_append, List.mem_cons]
  rintro (hname | hmark' | hvalue)
  · exact mark_notMem_encodePart hmark _ hname
  · exact hequals hmark'
  · exact mark_notMem_encodePart hmark _ hvalue

/-! ### Forms -/

/-- A text is cut where the library cuts it. -/
theorem splitAt_eq_splitOn (mark : Char) (text : List Char) :
    splitAt mark text = text.splitOn mark := by
  induction text with
  | nil => exact (List.splitOn_nil mark).symm
  | cons c text ih =>
    rw [splitAt, ih, List.splitOn, List.splitOn, List.splitOnP_cons_eq_if_modifyHead]
    rcases eq_or_ne c mark with rfl | hc
    · simp
    · rw [if_neg hc, if_neg (by simpa using hc)]
      obtain ⟨part, parts, hparts⟩ :=
        List.exists_cons_of_ne_nil (List.splitOnP_ne_nil (· == mark) text)
      rw [hparts, List.modifyHead_cons]

theorem mem_intercalate {mark c : Char} {parts : List (List Char)}
    (hc : c ∈ List.intercalate [mark] parts) : c = mark ∨ ∃ part ∈ parts, c ∈ part := by
  induction parts with
  | nil => simp [List.intercalate] at hc
  | cons part parts ih =>
    cases parts with
    | nil => exact Or.inr ⟨part, List.mem_singleton_self _, by simpa [List.intercalate] using hc⟩
    | cons next parts =>
      rw [List.intercalate_cons_cons, List.append_assoc, List.mem_append, List.singleton_append,
        List.mem_cons] at hc
      rcases hc with hpart | hmark | hmore
      · exact Or.inr ⟨part, List.mem_cons_self, hpart⟩
      · exact Or.inl hmark
      · obtain hmark | ⟨found, hfound, hin⟩ := ih hmore
        · exact Or.inl hmark
        · exact Or.inr ⟨found, List.mem_cons_of_mem _ hfound, hin⟩

/-- The text of a form consists of the characters that are written and the two marks. -/
theorem mem_encode {pairs : List (String × String)} {c : Char} (hc : c ∈ encode pairs) :
    isWritten c = true ∨ c = '=' ∨ c = '&' := by
  rcases mem_intercalate hc with hand | ⟨_, hpart, hin⟩
  · exact Or.inr (Or.inr hand)
  · obtain ⟨pair, -, rfl⟩ := List.mem_map.mp hpart
    by_contra hother
    rw [not_or, not_or, Bool.not_eq_true] at hother
    exact mark_notMem_encodePair hother.1 hother.2.1 pair hin

theorem decode_encode (pairs : List (String × String)) : decode (encode pairs) = pairs := by
  rcases eq_or_ne pairs [] with rfl | hpairs
  · rfl
  · have hmark : ∀ part ∈ pairs.map encodePair, '&' ∉ part := by
      rintro _ hpart hmem
      obtain ⟨pair, -, rfl⟩ := List.mem_map.mp hpart
      exact mark_notMem_encodePair (by decide) (by decide) pair hmem
    have hfull : ∀ part ∈ pairs.map encodePair, (!part.isEmpty) = true := by
      intro part hpart
      obtain ⟨pair, -, rfl⟩ := List.mem_map.mp hpart
      simp [encodePair]
    rw [decode, encode, splitAt_eq_splitOn,
      List.splitOn_intercalate _ hmark (by simpa using hpairs), List.filter_eq_self.mpr hfull,
      List.map_map]
    exact (List.map_congr_left fun pair _ ↦ decodePair_encodePair pair).trans (List.map_id _)

end Errand.Form
