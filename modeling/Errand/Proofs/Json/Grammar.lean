import Errand.Json.Skip
import Errand.Proofs.Text.Utf8

/-!
Which texts are JSON documents (`IsDocument`), however large their numbers and however deep their
lists and objects are. White space may stand around every item, name and value, and a numeric escape
in a string may be any four digits, half of a pair as well.

Texts are read as bytes. The characters that mean something are bytes of their own
(`bytesOf_cons`), and the others are bytes that mean nothing (`isPlainByte_of_mem`).
-/

set_option autoImplicit false

namespace Errand.Json

/-! ### Tokens -/

/-- White space between tokens. -/
def IsGap (text : List Char) : Prop := ∀ c ∈ text, c ∈ [' ', '\n', '\t', '\r']

/-- A character that stands for itself in a string. -/
def IsPlain (c : Char) : Prop := 0x20 ≤ c.toNat ∧ c ≠ '"' ∧ c ≠ '\\'

instance (c : Char) : Decidable (IsPlain c) :=
  inferInstanceAs (Decidable (0x20 ≤ c.toNat ∧ c ≠ '"' ∧ c ≠ '\\'))

/-- The letters that stand for a character after a backslash. -/
def shortEscapes : List (Char × Char) :=
  [('"', '"'), ('\\', '\\'), ('/', '/'), ('b', '\x08'), ('f', '\x0c'), ('n', '\n'), ('r', '\r'),
    ('t', '\t')]

/-- Four hexadecimal digits, in either case, and their number. -/
inductive Code : List Char → ℕ → Prop
  | four {a b c d : Char} {i j k l : ℕ} (ha : Form.hexValue? a = some i)
    (hb : Form.hexValue? b = some j) (hc : Form.hexValue? c = some k)
    (hd : Form.hexValue? d = some l) : Code [a, b, c, d] (((i * 16 + j) * 16 + k) * 16 + l)

/-- What may stand between the quotes of a string. -/
inductive IsBody : List Char → Prop
  | nil : IsBody []
  | plain {c : Char} {text : List Char} (hc : IsPlain c) (htext : IsBody text) : IsBody (c :: text)
  | short {e c : Char} {text : List Char} (he : (e, c) ∈ shortEscapes) (htext : IsBody text) :
    IsBody ('\\' :: e :: text)
  | code {digits text : List Char} {n : ℕ} (hdigits : Code digits n) (htext : IsBody text) :
    IsBody ('\\' :: 'u' :: (digits ++ text))

def AreDigits (text : List Char) : Prop := ∀ c ∈ text, c.isDigit = true

/-- A whole number without its sign: no digit precedes it in vain. -/
inductive IsWhole : List Char → Prop
  | zero : IsWhole ['0']
  | digits {d : Char} {text : List Char} (hd : d.isDigit = true) (hzero : d ≠ '0')
    (htext : AreDigits text) : IsWhole (d :: text)

/-- A point and digits, or nothing. -/
inductive IsFraction : List Char → Prop
  | none : IsFraction []
  | digits {d : Char} {text : List Char} (htext : AreDigits (d :: text)) :
    IsFraction ('.' :: d :: text)

/-- A mark, a sign or none, and digits; or nothing. -/
inductive IsExponent : List Char → Prop
  | none : IsExponent []
  | digits {mark d : Char} {sign text : List Char} (hmark : mark = 'e' ∨ mark = 'E')
    (hsign : sign = [] ∨ sign = ['+'] ∨ sign = ['-']) (htext : AreDigits (d :: text)) :
    IsExponent (mark :: (sign ++ d :: text))

/-- A number without its sign. -/
inductive IsUnsigned : List Char → Prop
  | parts {whole fraction exponent : List Char} (hwhole : IsWhole whole)
    (hfraction : IsFraction fraction) (hexponent : IsExponent exponent) :
    IsUnsigned (whole ++ (fraction ++ exponent))

/-! ### Documents -/

/-- What stands in a list, or for a name, with white space around it. -/
structure Item where
  before : List Char := []
  document : List Char
  after : List Char := []

namespace Item

def text (item : Item) : List Char := item.before ++ (item.document ++ item.after)

def IsSpaced (item : Item) : Prop := IsGap item.before ∧ IsGap item.after

end Item

/-- A member of an object: what stands in the quotes of its name, with white space around it, and
its value. -/
structure Member where
  name : Item
  value : Item

namespace Member

def text (member : Member) : List Char :=
  member.name.before ++ '"' :: (member.name.document ++ '"' :: (member.name.after ++
    ':' :: member.value.text))

def IsSpaced (member : Member) : Prop := member.name.IsSpaced ∧ member.value.IsSpaced

end Member

def listText (gap : List Char) (items : List Item) : List Char :=
  '[' :: (gap ++ (List.intercalate [','] (items.map Item.text) ++ [']']))

def objectText (gap : List Char) (members : List Member) : List Char :=
  '\x7b' :: (gap ++ (List.intercalate [','] (members.map Member.text) ++ ['\x7d']))

inductive IsDocument : List Char → Prop
  | word {text : String} (htext : text ∈ ["null", "true", "false"]) : IsDocument text.toList
  | positive {text : List Char} (htext : IsUnsigned text) : IsDocument text
  | negative {text : List Char} (htext : IsUnsigned text) : IsDocument ('-' :: text)
  | string {body : List Char} (hbody : IsBody body) : IsDocument ('"' :: (body ++ ['"']))
  | list {gap : List Char} {items : List Item} (hgap : IsGap gap)
    (hspaced : ∀ item ∈ items, item.IsSpaced)
    (hitems : ∀ item ∈ items, IsDocument item.document) : IsDocument (listText gap items)
  | object {gap : List Char} {members : List Member} (hgap : IsGap gap)
    (hspaced : ∀ member ∈ members, member.IsSpaced)
    (hnames : ∀ member ∈ members, IsBody member.name.document)
    (hvalues : ∀ member ∈ members, IsDocument member.value.document) :
    IsDocument (objectText gap members)

/-- Something stands before each comma, and more after it. -/
theorem intercalate_cons (part : List Char) (parts : List (List Char)) :
    List.intercalate [','] (part :: parts) = part ++ parts.flatMap (',' :: ·) := by
  induction parts generalizing part with
  | nil => simp [List.intercalate]
  | cons next parts ih =>
    rw [List.flatMap_cons, List.cons_append, ← ih next]
    simp [List.intercalate]

/-! ### Bytes -/

def bytesOf (text : List Char) : List UInt8 := text.flatMap String.utf8EncodeChar

@[simp] theorem bytesOf_nil : bytesOf [] = [] := rfl

@[simp] theorem bytesOf_append (text more : List Char) :
    bytesOf (text ++ more) = bytesOf text ++ bytesOf more := List.flatMap_append

theorem encode_ofList (text : List Char) : Utf8.encode (String.ofList text) = bytesOf text := by
  rw [Utf8.encode, String.toList_ofList, bytesOf]

/-- What is so of the ASCII characters one by one is so of all of them. -/
theorem ascii_induction {P : Char → Prop} (hP : ∀ n < 128, P (Char.ofNat n)) {c : Char}
    (hc : c.toNat < 128) : P c :=
  Char.ofNat_toNat c ▸ hP c.toNat hc

theorem bytesOf_cons {c : Char} (hc : c.toNat < 128) (text : List Char) :
    bytesOf (c :: text) = byte c :: bytesOf text := by
  have hbyte : UInt8.ofNat c.toNat = byte c :=
    ascii_induction (P := fun c ↦ UInt8.ofNat c.toNat = byte c) (by decide) hc
  rw [bytesOf, List.flatMap_cons, Utf8.encodeChar_of_lt hc, hbyte, bytesOf, List.singleton_append]

theorem byte_inj {c d : Char} (hc : c.toNat < 128) (hd : d.toNat < 128) :
    byte c = byte d ↔ c = d := by
  refine ⟨fun h ↦ ?_, congrArg byte⟩
  have hvalue : ∀ {c : Char}, c.toNat < 128 → (byte c).toNat = c.toNat := by
    intro c hc
    exact ascii_induction (P := fun c ↦ (byte c).toNat = c.toNat) (by decide) hc
  rw [← Char.ofNat_toNat c, ← hvalue hc, h, hvalue hd, Char.ofNat_toNat]

theorem skipSpace_cons {b : UInt8} (hb : isSpace b = false) (rest : List UInt8) :
    skipSpace (b :: rest) = b :: rest :=
  List.dropWhile_cons_of_neg (by simp [hb])

/-- A byte that stands for itself in a string. -/
def IsPlainByte (b : UInt8) : Prop := ¬b < 0x20 ∧ b ≠ byte '"' ∧ b ≠ byte '\\'

instance (b : UInt8) : Decidable (IsPlainByte b) :=
  inferInstanceAs (Decidable (¬b < 0x20 ∧ b ≠ byte '"' ∧ b ≠ byte '\\'))

theorem isPlainByte_of_mem {c : Char} (hc : IsPlain c) {b : UInt8}
    (hb : b ∈ String.utf8EncodeChar c) : IsPlainByte b := by
  by_cases hascii : c.toNat < 128
  · rw [Utf8.encodeChar_of_lt hascii, List.mem_singleton] at hb
    subst hb
    refine ascii_induction (P := fun c ↦ IsPlain c → IsPlainByte (UInt8.ofNat c.toNat)) ?_ hascii hc
    decide
  · have hhigh := Utf8.le_of_mem_encodeChar (Nat.le_of_not_lt hascii) hb
    have hlow : ∀ a : UInt8, a.toNat < 128 → b ≠ a := by
      rintro a ha rfl
      exact absurd ha (Nat.not_lt_of_le hhigh)
    refine ⟨fun hcontrol ↦ ?_, hlow _ (by decide), hlow _ (by decide)⟩
    have hsmall : b.toNat < 32 := UInt8.lt_iff_toNat_lt.mp hcontrol
    omega

/-! ### White space and what follows a document -/

theorem skipSpace_bytesOf {gap : List Char} (hgap : IsGap gap) (rest : List UInt8) :
    skipSpace (bytesOf gap ++ rest) = skipSpace rest := by
  induction gap with
  | nil => rfl
  | cons c gap ih =>
    obtain ⟨hc, hmore⟩ := List.forall_mem_cons.mp hgap
    have hspace : c.toNat < 128 ∧ isSpace (byte c) = true := by
      revert hc
      simp only [List.mem_cons, List.not_mem_nil, or_false]
      rintro (rfl | rfl | rfl | rfl) <;> decide
    rw [bytesOf_cons hspace.1, List.cons_append, skipSpace,
      List.dropWhile_cons_of_pos hspace.2]
    exact ih hmore

/-- White space before a token is passed over. -/
theorem skipSpace_token {gap : List Char} (hgap : IsGap gap) {first : UInt8}
    (hfirst : isSpace first = false) {token : List Char} {more : List UInt8}
    (htoken : bytesOf token = first :: more) (rest : List UInt8) :
    skipSpace (bytesOf (gap ++ token) ++ rest) = first :: (more ++ rest) := by
  rw [bytesOf_append, List.append_assoc, skipSpace_bytesOf hgap, htoken, List.cons_append,
    skipSpace_cons hfirst]

/-- A member begins with its name. -/
theorem skipSpace_member {member : Member} (hspaced : member.IsSpaced) (rest : List UInt8) :
    skipSpace (bytesOf member.text ++ rest) =
      byte '"' :: (bytesOf member.name.document ++ byte '"' :: (bytesOf member.name.after ++
        byte ':' :: (bytesOf member.value.text ++ rest))) := by
  have htoken : bytesOf ('"' :: (member.name.document ++ '"' :: (member.name.after ++
      ':' :: member.value.text))) = byte '"' :: (bytesOf member.name.document ++ byte '"' ::
        (bytesOf member.name.after ++ byte ':' :: bytesOf member.value.text)) := by
    rw [bytesOf_cons (by decide), bytesOf_append, bytesOf_cons (by decide), bytesOf_append,
      bytesOf_cons (by decide)]
  rw [Member.text, skipSpace_token hspaced.1.1 (by decide) htoken]
  simp only [List.append_assoc, List.cons_append]

theorem readColon_bytesOf {gap : List Char} (hgap : IsGap gap) (rest : List UInt8) :
    readColon (bytesOf gap ++ byte ':' :: rest) = .ok rest := by
  rw [readColon, skipSpace_bytesOf hgap, skipSpace_cons (by decide)]
  rfl

/-- No digit stands in front. -/
def EndsDigits (rest : List UInt8) : Prop := ∀ b ∈ rest.head?, isDigit b = false

/-- What may follow a document, if anything does. -/
def endings : List Char := [' ', '\n', '\t', '\r', ',', ']', '\x7d']

def EndsDocument (rest : List UInt8) : Prop := ∀ b ∈ rest.head?, ∃ c ∈ endings, b = byte c

theorem byte_ending : ∀ c ∈ endings, c.toNat < 128 ∧ isDigit (byte c) = false ∧
    byte c ≠ byte '.' ∧ byte c ≠ byte 'e' ∧ byte c ≠ byte 'E' := by
  simp only [endings, List.forall_mem_cons, List.not_mem_nil, false_implies, implies_true]
  decide

theorem EndsDocument.endsDigits {rest : List UInt8} (hrest : EndsDocument rest) :
    EndsDigits rest := by
  intro b hb
  obtain ⟨c, hc, rfl⟩ := hrest b hb
  exact (byte_ending c hc).2.1

/-- No point and no exponent follows a number that has ended. -/
theorem EndsDocument.ne {b : UInt8} {rest : List UInt8} (hrest : EndsDocument (b :: rest)) :
    b ≠ byte '.' ∧ b ≠ byte 'e' ∧ b ≠ byte 'E' := by
  obtain ⟨c, hc, rfl⟩ := hrest b rfl
  exact (byte_ending c hc).2.2

theorem endsDocument_nil : EndsDocument [] := nofun

theorem endsDocument_cons {c : Char} (hc : c ∈ endings) (rest : List UInt8) :
    EndsDocument (byte c :: rest) :=
  fun _ hb ↦ ⟨c, hc, (Option.some.inj hb).symm⟩

/-- White space does not change what may follow a document. -/
theorem EndsDocument.gap {gap : List Char} (hgap : IsGap gap) {rest : List UInt8}
    (hrest : EndsDocument rest) : EndsDocument (bytesOf gap ++ rest) := by
  cases gap with
  | nil => exact hrest
  | cons c gap =>
    have hends : [' ', '\n', '\t', '\r'] ⊆ endings := by decide
    have hc := hends (hgap c List.mem_cons_self)
    rw [bytesOf_cons (byte_ending c hc).1]
    exact endsDocument_cons hc _

/-! ### Words -/

theorem readWord_bytesOf {word : List Char} (hword : ∀ c ∈ word, c.toNat < 128)
    (rest : List UInt8) : readWord word (bytesOf word ++ rest) = .ok rest := by
  induction word with
  | nil => rfl
  | cons c word ih =>
    obtain ⟨hc, hmore⟩ := List.forall_mem_cons.mp hword
    rw [bytesOf_cons hc, List.cons_append, readWord, if_pos rfl, ih hmore]

theorem readWord_null (rest : List UInt8) :
    bytesOf "null".toList = byte 'n' :: bytesOf "ull".toList ∧
      readWord "ull".toList (bytesOf "ull".toList ++ rest) = .ok rest :=
  ⟨by simp [bytesOf_cons], readWord_bytesOf (by simp) rest⟩

theorem readWord_true (rest : List UInt8) :
    bytesOf "true".toList = byte 't' :: bytesOf "rue".toList ∧
      readWord "rue".toList (bytesOf "rue".toList ++ rest) = .ok rest :=
  ⟨by simp [bytesOf_cons], readWord_bytesOf (by simp) rest⟩

theorem readWord_false (rest : List UInt8) :
    bytesOf "false".toList = byte 'f' :: bytesOf "alse".toList ∧
      readWord "alse".toList (bytesOf "alse".toList ++ rest) = .ok rest :=
  ⟨by simp [bytesOf_cons], readWord_bytesOf (by simp) rest⟩

/-! ### Digits -/

theorem digit_cases {d : Char} (hd : d.isDigit = true) :
    d.toNat < 128 ∧ isDigit (byte d) = true ∧ digitOf (byte d) = d.toNat - '0'.toNat := by
  have hascii : d.toNat < 128 := by
    have hval : d.toNat = d.val.toNat := rfl
    simp only [Char.isDigit, ge_iff_le, Bool.and_eq_true, decide_eq_true_eq,
      UInt32.le_iff_toNat_le] at hd
    exact hval.trans_lt (hd.2.trans_lt (by decide))
  refine ⟨hascii, ascii_induction (P := fun d ↦ d.isDigit = true → isDigit (byte d) = true ∧
    digitOf (byte d) = d.toNat - '0'.toNat) ?_ hascii hd⟩
  decide +kernel

theorem ne_of_isDigit {b : UInt8} (hb : isDigit b = true) {a : UInt8} (ha : isDigit a = false) :
    b ≠ a := by
  rintro rfl
  cases ha.symm.trans hb

theorem isSpace_of_isDigit {b : UInt8} (hb : isDigit b = true) : isSpace b = false := by
  simp [isSpace, ne_of_isDigit hb (show isDigit (byte ' ') = false by decide),
    ne_of_isDigit hb (show isDigit (byte '\n') = false by decide),
    ne_of_isDigit hb (show isDigit (byte '\t') = false by decide),
    ne_of_isDigit hb (show isDigit (byte '\r') = false by decide)]

theorem IsWhole.head {text : List Char} (htext : IsWhole text) :
    ∃ d more, text = d :: more ∧ d.isDigit = true := by
  cases htext with
  | zero => exact ⟨_, _, rfl, by decide⟩
  | digits hd => exact ⟨_, _, rfl, hd⟩

theorem IsUnsigned.head {text : List Char} (htext : IsUnsigned text) :
    ∃ d more, text = d :: more ∧ d.isDigit = true := by
  obtain ⟨hwhole, -, -⟩ := htext
  obtain ⟨d, more, rfl, hd⟩ := hwhole.head
  exact ⟨d, _, rfl, hd⟩

/-- Digits are read up to what ends them. -/
theorem takeWhile_isDigit {digits : List Char} (hdigits : AreDigits digits) {rest : List UInt8}
    (hrest : EndsDigits rest) : (bytesOf digits ++ rest).takeWhile isDigit = digits.map byte ∧
      (bytesOf digits ++ rest).dropWhile isDigit = rest := by
  induction digits with
  | nil =>
    cases rest with
    | nil => exact ⟨rfl, rfl⟩
    | cons b rest =>
      have hb : ¬isDigit b = true := by simp [hrest b rfl]
      exact ⟨List.takeWhile_cons_of_neg hb, List.dropWhile_cons_of_neg hb⟩
  | cons d digits ih =>
    obtain ⟨hd, hmore⟩ := List.forall_mem_cons.mp hdigits
    obtain ⟨hascii, hdigit, -⟩ := digit_cases hd
    obtain ⟨htake, hdrop⟩ := ih hmore
    rw [bytesOf_cons hascii, List.cons_append, List.takeWhile_cons_of_pos hdigit,
      List.dropWhile_cons_of_pos hdigit, htake, hdrop]
    exact ⟨rfl, rfl⟩

/-- The first character of a document is no white space and closes nothing. -/
theorem IsDocument.head {text : List Char} (htext : IsDocument text) :
    ∃ c more, text = c :: more ∧ c.toNat < 128 ∧ isSpace (byte c) = false ∧
      byte c ≠ byte ']' := by
  cases htext with
  | word hword =>
    simp only [List.mem_cons, List.not_mem_nil, or_false] at hword
    rcases hword with rfl | rfl | rfl
    · exact ⟨'n', "ull".toList, by simp, by decide⟩
    · exact ⟨'t', "rue".toList, by simp, by decide⟩
    · exact ⟨'f', "alse".toList, by simp, by decide⟩
  | positive htext =>
    obtain ⟨d, more, rfl, hd⟩ := htext.head
    obtain ⟨hascii, hdigit, -⟩ := digit_cases hd
    exact ⟨d, more, rfl, hascii, isSpace_of_isDigit hdigit, ne_of_isDigit hdigit (by decide)⟩
  | negative | string | list | object => exact ⟨_, _, rfl, by decide⟩

/-! ### Strings -/

theorem readHexFour_bytesOf {digits : List Char} {n : ℕ} (hdigits : Code digits n)
    (rest : List UInt8) : readHexFour (bytesOf digits ++ rest) = .ok n ∧
      (bytesOf digits).length = 4 := by
  have hhex : ∀ {c : Char} {k : ℕ}, Form.hexValue? c = some k →
      c.toNat < 128 ∧ hexDigitOf? (byte c) = some k := by
    intro c k hc
    have hascii : c.toNat < 128 := by
      simp only [Form.hexValue?] at hc
      split_ifs at hc <;> omega
    have hvalue := ascii_induction (P := fun c ↦ hexDigitOf? (byte c) = Form.hexValue? c ∨
      Form.hexValue? c = none) (by decide) hascii
    simp_all
  cases hdigits with
  | four ha hb hc hd =>
    rw [bytesOf_cons (hhex ha).1, bytesOf_cons (hhex hb).1, bytesOf_cons (hhex hc).1,
      bytesOf_cons (hhex hd).1]
    simp [readHexFour, (hhex ha).2, (hhex hb).2, (hhex hc).2, (hhex hd).2]

theorem simpleEscape?_byte : ∀ pair ∈ shortEscapes, pair.1.toNat < 128 ∧
    byte pair.1 ≠ byte 'u' ∧ simpleEscape? (byte pair.1) = some pair.2 := by
  decide

end Errand.Json
