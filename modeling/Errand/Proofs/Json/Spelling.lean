import Errand.Json.Codec
import Errand.Proofs.Json.Numerals
import Errand.Proofs.Json.Strings

/-!
Values and the texts that spell them. A codec reads a value from any of its spellings, with white
space before it and whatever may follow a document after it, and writes it in one of them
(`Codec.Reads`). So it is with strings, flags and numbers (`Codec.reads_text`, `Codec.reads_flag`,
`Codec.reads_natural`), and with what may be absent (`Codec.reads_none`, `Codec.reads_some`). A
codec that does so for all values is faithful: whole texts are read as the value they spell
(`Codec.faithful_of_reads`).
-/

set_option autoImplicit false

namespace Errand.Json

variable {α : Type}

/-- The decimal of a number. -/
def SpelledNatural (n : ℕ) (text : List Char) : Prop := text = (toString n).toList

/-- A decimal is a digit and more, and is read as its number. -/
theorem SpelledNatural.exists_readNumber {n : ℕ} {text : List Char} (htext : SpelledNatural n text)
    (hn : n < Nat.pow 2 64) : ∃ b more, bytesOf text = b :: more ∧ isDigit b = true ∧
      ∀ rest, EndsDocument rest → readNumber b (more ++ rest) = .ok (.whole n, rest) := by
  subst htext
  obtain ⟨d, digits, htext, hd⟩ := (isWhole_toString n).head
  obtain ⟨hascii, hdigit, -⟩ := digit_cases hd
  refine ⟨byte d, bytesOf digits, ?_, hdigit, fun rest hrest ↦ ?_⟩
  · rw [htext, bytesOf_cons hascii]
  · have hsign : byte d ≠ byte '-' := by
      intro hsign
      rw [hsign] at hdigit
      exact absurd hdigit (by decide)
    have hread := readUnsigned_toString hn hrest
    rw [htext, bytesOf_cons hascii, List.cons_append] at hread
    rw [readNumber, if_neg hsign, hread]

/-- A string is a quote and more, and is read as what it spells. -/
theorem SpelledString.exists_readString {s : String} {text : List Char}
    (htext : SpelledString s text) : ∃ more, bytesOf text = byte '"' :: more ∧
      ∀ rest, readString (more ++ rest) = .ok (s, rest) := by
  obtain ⟨body, rfl, hbody⟩ := htext
  refine ⟨bytesOf body ++ [byte '"'], ?_, fun rest ↦ ?_⟩
  · rw [bytesOf_cons (by decide), bytesOf_append]
    rfl
  · rw [List.append_assoc, List.singleton_append, readString_spelled hbody]

def SpelledFlag (b : Bool) (text : List Char) : Prop :=
  text = (if b then "true" else "false").toList

/-- A value or `null`. -/
def SpelledOption (spells : α → List Char → Prop) : Option α → List Char → Prop
  | none => fun text ↦ text = "null".toList
  | some a => spells a

namespace Codec

/-- The spellings of a value are read as that value, `levels` being the lists and objects they
open, and the value is written in one of them. -/
structure Reads (codec : Codec α) (levels : ℕ) (a : α) (spells : List Char → Prop) : Prop where
  written : spells (codec.write a).write
  read : ∀ {text gap : List Char} {rest : List UInt8} {depth : ℕ}, spells text → IsGap gap →
    EndsDocument rest → levels ≤ depth →
      codec.read depth (bytesOf (gap ++ text) ++ rest) = .ok (a, rest)

theorem Reads.mono {codec : Codec α} {levels more : ℕ} {a : α} {spells : List Char → Prop}
    (hreads : codec.Reads levels a spells) (hmore : levels ≤ more) :
    codec.Reads more a spells where
  written := hreads.written
  read htext hgap hrest hdepth := hreads.read htext hgap hrest (hmore.trans hdepth)

/-! ### Scalars -/

theorem reads_text (s : String) : text.Reads 0 s (SpelledString s) where
  written := spelledString_write s
  read := by
    intro text gap rest depth htext hgap _ _
    obtain ⟨more, htoken, hread⟩ := htext.exists_readString
    simp only [Codec.text, readText, readScalar, skipSpace_token hgap (by decide) htoken,
      decide_true, if_true, hread rest]

theorem reads_flag (b : Bool) : flag.Reads 0 b (SpelledFlag b) where
  written := by cases b <;> rfl
  read := by
    rintro _ gap rest depth rfl hgap - -
    cases b with
    | true =>
      obtain ⟨hword, hread⟩ := readWord_true rest
      simp +decide only [flag, readScalar, if_true, skipSpace_token hgap (by decide) hword, hread]
      rfl
    | false =>
      obtain ⟨hword, hread⟩ := readWord_false rest
      simp +decide only [flag, readScalar, if_true, if_false,
        skipSpace_token hgap (by decide) hword, hread]
      rfl

theorem reads_natural {name : String} {bound n : ℕ} (hbound : bound ≤ Nat.pow 2 64)
    (hn : n < bound) : (natural name bound).Reads 0 n (SpelledNatural n) where
  written := rfl
  read := by
    intro text gap rest depth htext hgap hrest _
    obtain ⟨b, more, htoken, hdigit, hread⟩ := htext.exists_readNumber (hn.trans_le hbound)
    have hconvert : wholeWithin name 0 (bound - 1) (.whole n) = .ok (n : ℤ) := by
      rw [wholeWithin, if_pos (by omega)]
    have hstarts : startsNumber b = true := by simp [startsNumber, hdigit]
    simp only [natural, readNumberAs, readScalar,
      skipSpace_token hgap (isSpace_of_isDigit hdigit) htoken, hstarts, if_true, hread rest hrest,
      bind, Except.bind, hconvert, Except.map, Int.toNat_natCast]

/-! ### Values that may be absent -/

theorem reads_none (codec : Codec α) (spells : α → List Char → Prop) :
    (optional codec).Reads 0 none (SpelledOption spells none) where
  written := rfl
  read := by
    rintro _ gap rest depth rfl hgap - -
    obtain ⟨hword, hread⟩ := readWord_null rest
    simp +decide only [optional, if_true, skipSpace_token hgap (by decide) hword, hread]
    rfl

/-- A value that is present must not begin as `null` does. -/
theorem reads_some {codec : Codec α} {levels : ℕ} {a : α} {spells : α → List Char → Prop}
    (hreads : codec.Reads levels a (spells a))
    (hhead : ∀ text, spells a text → ∃ b more, bytesOf text = b :: more ∧ isSpace b = false ∧
      b ≠ byte 'n') :
    (optional codec).Reads levels (some a) (SpelledOption spells (some a)) where
  written := hreads.written
  read := by
    intro text gap rest depth htext hgap hrest hdepth
    obtain ⟨b, more, htoken, hspace, hnull⟩ := hhead text htext
    simp only [optional, skipSpace_token hgap hspace htoken, if_neg hnull,
      hreads.read htext hgap hrest hdepth]
    rfl

/-! ### Whole texts -/

/-- Every value is written in one of its spellings, and is read from each of them, with white space
around it. -/
def Faithful (codec : Codec α) (spells : α → List Char → Prop) : Prop :=
  ∀ a, spells a (codec.write a).write ∧
    decode codec (Utf8.encode (codec.write a).text) = .ok a ∧
    ∀ before text after, IsGap before → spells a text → IsGap after →
      decode codec (Utf8.encode (String.ofList (before ++ text ++ after))) = .ok a

theorem faithful_of_reads {codec : Codec α} {levels : ℕ} {spells : α → List Char → Prop}
    (hreads : ∀ a, codec.Reads levels a (spells a)) (hlevels : levels ≤ maxDepth) :
    codec.Faithful spells := by
  intro a
  have hdecode : ∀ before text after, IsGap before → spells a text → IsGap after →
      decode codec (Utf8.encode (String.ofList (before ++ text ++ after))) = .ok a := by
    intro before text after hbefore htext hafter
    have hrest := endsDocument_nil.gap hafter
    have hend : expectEnd (bytesOf after ++ []) = .ok () := by
      rw [expectEnd, skipSpace_bytesOf hafter]
      rfl
    have hread := (hreads a).read htext hbefore hrest hlevels
    rw [encode_ofList, bytesOf_append (before ++ text), ← List.append_nil (bytesOf after)]
    simp only [decode, readWhole, hread, bind, Except.bind, hend]
  have hgap : IsGap [] := nofun
  have hwritten := hdecode [] _ [] hgap (hreads a).written hgap
  rw [List.nil_append, List.append_nil] at hwritten
  exact ⟨(hreads a).written, hwritten, hdecode⟩

end Codec

end Errand.Json
