import Errand.Json
import Errand.Proofs.Json.Grammar

/-!
A string is read as what it spells. A character may be spelled by itself, by a letter after a
backslash, by its number or by a pair of numbers (`SpelledChar`), and each of these is read as that
character (`readStringBytes_spelled`), so the text between two quotes is read as the string it
spells (`readString_spelled`). Strings are written in one of their spellings
(`spelledString_write`).
-/

set_option autoImplicit false

namespace Errand.Json

/-- How a character is written in a string. -/
inductive SpelledChar : List Char → Char → Prop
  | plain {c : Char} (hc : IsPlain c) : SpelledChar [c] c
  | short {e c : Char} (he : (e, c) ∈ shortEscapes) : SpelledChar ['\\', e] c
  | code {digits : List Char} {n : ℕ} (hdigits : Code digits n) (hn : n < 0xD800 ∨ 0xDFFF < n) :
    SpelledChar ('\\' :: 'u' :: digits) (Char.ofNat n)
  | pair {digits digits' : List Char} {high low : ℕ} (hdigits : Code digits high)
    (hhigh : 0xD800 ≤ high ∧ high ≤ 0xDBFF) (hdigits' : Code digits' low)
    (hlow : 0xDC00 ≤ low ∧ low ≤ 0xDFFF) :
    SpelledChar ('\\' :: 'u' :: (digits ++ '\\' :: 'u' :: digits'))
      (Char.ofNat (0x10000 + (high - 0xD800) * 0x400 + (low - 0xDC00)))

/-- What stands between the quotes of a string, and the characters it spells. -/
inductive SpelledChars : List Char → List Char → Prop
  | nil : SpelledChars [] []
  | cons {piece text : List Char} {c : Char} {chars : List Char} (hpiece : SpelledChar piece c)
    (htext : SpelledChars text chars) : SpelledChars (piece ++ text) (c :: chars)

/-- A string with its quotes. -/
def SpelledString (s : String) (text : List Char) : Prop :=
  ∃ body, text = '"' :: (body ++ ['"']) ∧ SpelledChars body s.toList

/-! ### Reading -/

theorem readStringBytes_plain {bytes : List UInt8} (hbytes : ∀ b ∈ bytes, IsPlainByte b)
    (read rest : List UInt8) :
    readStringBytes read (bytes ++ rest) = readStringBytes (bytes.reverse ++ read) rest := by
  induction bytes generalizing read with
  | nil => rfl
  | cons b bytes ih =>
    obtain ⟨⟨hcontrol, hquote, hslash⟩, hmore⟩ := List.forall_mem_cons.mp hbytes
    rw [List.cons_append, readStringBytes.eq_def]
    simp only [if_neg hquote, if_neg hslash, if_neg hcontrol, ih hmore, List.reverse_cons,
      List.append_assoc, List.singleton_append]

/-- An escape is read after its backslash. -/
theorem readStringBytes_escape {escape : List UInt8} {c : Char} {rest : List UInt8}
    (hescape : readEscape (escape ++ rest) = .ok (c, escape.length)) (read : List UInt8) :
    readStringBytes read (byte '\\' :: (escape ++ rest)) =
      readStringBytes ((String.utf8EncodeChar c).reverse ++ read) rest := by
  rw [readStringBytes.eq_def]
  simp +decide only [if_false, if_true, hescape, List.drop_left']

theorem readCodePoint_code {digits : List Char} {n : ℕ} (hdigits : Code digits n)
    (hn : n < 0xD800 ∨ 0xDFFF < n) (rest : List UInt8) :
    readCodePoint (bytesOf digits ++ rest) = .ok (Char.ofNat n, 4) := by
  have htrailing : isTrailingSurrogate n = false := by
    simp only [isTrailingSurrogate, Bool.and_eq_false_iff, decide_eq_false_iff_not]
    omega
  have hleading : isLeadingSurrogate n = false := by
    simp only [isLeadingSurrogate, Bool.and_eq_false_iff, decide_eq_false_iff_not]
    omega
  simp only [readCodePoint, (readHexFour_bytesOf hdigits rest).1, bind, Except.bind, htrailing,
    hleading, Bool.false_eq_true, if_false]

theorem readCodePoint_pair {digits digits' : List Char} {high low : ℕ} (hdigits : Code digits high)
    (hhigh : 0xD800 ≤ high ∧ high ≤ 0xDBFF) (hdigits' : Code digits' low)
    (hlow : 0xDC00 ≤ low ∧ low ≤ 0xDFFF) (rest : List UInt8) :
    readCodePoint (bytesOf digits ++ byte '\\' :: byte 'u' :: (bytesOf digits' ++ rest)) =
      .ok (Char.ofNat (0x10000 + (high - 0xD800) * 0x400 + (low - 0xDC00)), 10) := by
  have hleading : isTrailingSurrogate high = false ∧ isLeadingSurrogate high = true := by
    simp only [isTrailingSurrogate, isLeadingSurrogate, Bool.and_eq_false_iff, Bool.and_eq_true,
      decide_eq_false_iff_not, decide_eq_true_eq]
    omega
  have htrailing : isTrailingSurrogate low = true := by
    simp only [isTrailingSurrogate, Bool.and_eq_true, decide_eq_true_eq]
    exact hlow
  obtain ⟨hread, hlength⟩ :=
    readHexFour_bytesOf hdigits (byte '\\' :: byte 'u' :: (bytesOf digits' ++ rest))
  have hpair : (bytesOf digits ++ byte '\\' :: byte 'u' :: (bytesOf digits' ++ rest)).drop 4 =
      byte '\\' :: byte 'u' :: (bytesOf digits' ++ rest) := List.drop_left' hlength
  have hsecond : (bytesOf digits ++ byte '\\' :: byte 'u' :: (bytesOf digits' ++ rest)).drop 6 =
      bytesOf digits' ++ rest := by
    rw [show 6 = 4 + 2 from rfl, ← List.drop_drop, hpair]
    rfl
  have hexpect : expectPair (byte '\\' :: byte 'u' :: (bytesOf digits' ++ rest)) = .ok () := rfl
  simp only [readCodePoint, hread, bind, Except.bind, hleading, Bool.false_eq_true, if_false,
    if_true, hpair, hexpect, hsecond, (readHexFour_bytesOf hdigits' rest).1, htrailing]

/-- A character is read in any of its spellings. -/
theorem readStringBytes_spelled {piece : List Char} {c : Char} (hpiece : SpelledChar piece c)
    (read rest : List UInt8) : readStringBytes read (bytesOf piece ++ rest) =
      readStringBytes ((String.utf8EncodeChar c).reverse ++ read) rest := by
  cases hpiece with
  | plain hc =>
    have hbytes : bytesOf [c] = String.utf8EncodeChar c := by simp [bytesOf]
    rw [hbytes, readStringBytes_plain fun b ↦ isPlainByte_of_mem hc]
  | @short e c he =>
    obtain ⟨hascii, hcode, hsimple⟩ := simpleEscape?_byte _ he
    have hescape : readEscape ([byte e] ++ rest) = .ok (c, [byte e].length) := by
      simp [readEscape, hcode, hsimple]
    rw [bytesOf_cons (by decide), bytesOf_cons hascii]
    exact readStringBytes_escape hescape read
  | @code digits n hdigits hn =>
    have hlength := (readHexFour_bytesOf hdigits rest).2
    have hescape : readEscape ((byte 'u' :: bytesOf digits) ++ rest) =
        .ok (Char.ofNat n, (byte 'u' :: bytesOf digits).length) := by
      rw [List.cons_append, readEscape, if_pos rfl, readCodePoint_code hdigits hn,
        List.length_cons, hlength]
      rfl
    rw [bytesOf_cons (by decide), bytesOf_cons (by decide)]
    exact readStringBytes_escape hescape read
  | @pair digits digits' high low hdigits hhigh hdigits' hlow =>
    have hlength := (readHexFour_bytesOf hdigits rest).2
    have hlength' := (readHexFour_bytesOf hdigits' rest).2
    have hescape : readEscape ((byte 'u' :: (bytesOf digits ++ byte '\\' :: byte 'u' ::
        bytesOf digits')) ++ rest) =
          .ok (Char.ofNat (0x10000 + (high - 0xD800) * 0x400 + (low - 0xDC00)),
            (byte 'u' :: (bytesOf digits ++ byte '\\' :: byte 'u' :: bytesOf digits')).length) := by
      rw [List.cons_append, List.append_assoc, List.cons_append, List.cons_append, readEscape,
        if_pos rfl, readCodePoint_pair hdigits hhigh hdigits' hlow]
      simp [hlength, hlength', Except.map]
    rw [bytesOf_cons (by decide), bytesOf_cons (by decide), bytesOf_append,
      bytesOf_cons (by decide), bytesOf_cons (by decide)]
    exact readStringBytes_escape hescape read

theorem readStringBytes_chars {body chars : List Char} (hbody : SpelledChars body chars)
    (read rest : List UInt8) : readStringBytes read (bytesOf body ++ byte '"' :: rest) =
      .ok (read.reverse ++ bytesOf chars, rest) := by
  induction hbody generalizing read with
  | nil =>
    rw [bytesOf_nil, List.nil_append, readStringBytes.eq_def]
    simp
  | @cons piece text c chars hpiece _ ih =>
    have hbytes : bytesOf (c :: chars) = String.utf8EncodeChar c ++ bytesOf chars :=
      List.flatMap_cons
    rw [bytesOf_append, List.append_assoc, readStringBytes_spelled hpiece, ih, hbytes,
      List.reverse_append, List.reverse_reverse, List.append_assoc]

/-- A string is read as what it spells, its opening quote having been read. -/
theorem readString_spelled {body : List Char} {s : String} (hbody : SpelledChars body s.toList)
    (rest : List UInt8) : readString (bytesOf body ++ byte '"' :: rest) = .ok (s, rest) := by
  have hdecode : Utf8.decode? (bytesOf s.toList) = some s := Utf8.decode?_encode s
  simp only [readString, readStringBytes_chars hbody, List.reverse_nil, List.nil_append, bind,
    Except.bind, hdecode]

/-! ### Writing -/

theorem spelledChar_write (c : Char) : SpelledChar (writeChar c) c := by
  unfold writeChar
  split_ifs with hquote hslash hb hf hn hr ht hcontrol
  · subst hquote
    exact .short (by decide)
  · subst hslash
    exact .short (by decide)
  · subst hb
    exact .short (by decide)
  · subst hf
    exact .short (by decide)
  · subst hn
    exact .short (by decide)
  · subst hr
    exact .short (by decide)
  · subst ht
    exact .short (by decide)
  · have hdigit : ∀ n < 16, Form.hexValue? (Hex.digit n) = some n := by decide
    have hcode : Code ['0', '0', Hex.digit (c.toNat / 16), Hex.digit (c.toNat % 16)] c.toNat := by
      have hvalue : ((0 * 16 + 0) * 16 + c.toNat / 16) * 16 + c.toNat % 16 = c.toNat := by omega
      have hzero : Form.hexValue? '0' = some 0 := by decide
      have hfour := Code.four hzero hzero
        (hdigit (c.toNat / 16) (by omega)) (hdigit (c.toNat % 16) (by omega))
      rwa [hvalue] at hfour
    have hspelled := SpelledChar.code hcode (Or.inl (by omega))
    rwa [Char.ofNat_toNat] at hspelled
  · exact .plain ⟨Nat.le_of_not_lt hcontrol, hquote, hslash⟩

theorem spelledChars_write (chars : List Char) : SpelledChars (chars.flatMap writeChar) chars := by
  induction chars with
  | nil => exact .nil
  | cons c chars ih => exact .cons (spelledChar_write c) ih

theorem spelledString_write (s : String) : SpelledString s (writeString s) :=
  ⟨_, rfl, spelledChars_write s.toList⟩

end Errand.Json
