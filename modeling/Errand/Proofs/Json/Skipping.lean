import Errand.Proofs.Json.Grammar

/-!
Every document can be passed over, and what follows it is left in front (`skip_bytesOf`). Scalars
are passed over at once (`passesOver_of_scalar`). Lists and objects are passed over part by part
while the frames around them wait: after a document, the frames go on as if it had not been there
(`IsDocument.passesOver`), at the cost of one unit of fuel for each document in it.
-/

set_option autoImplicit false

namespace Errand.Json

/-! ### Strings -/

theorem skipString_plain {bytes : List UInt8} (hbytes : ∀ b ∈ bytes, IsPlainByte b)
    (rest : List UInt8) : skipString (bytes ++ rest) = skipString rest := by
  induction bytes with
  | nil => rfl
  | cons b bytes ih =>
    obtain ⟨⟨hcontrol, hquote, hslash⟩, hmore⟩ := List.forall_mem_cons.mp hbytes
    rw [List.cons_append, skipString.eq_def]
    simp only [if_neg hquote, if_neg hslash, if_neg hcontrol, ih hmore]

theorem skipString_bytesOf {body : List Char} (hbody : IsBody body) (rest : List UInt8) :
    skipString (bytesOf body ++ byte '"' :: rest) = .ok rest := by
  induction hbody with
  | nil =>
    rw [bytesOf_nil, List.nil_append, skipString.eq_def]
    exact if_pos rfl
  | @plain c text hc _ ih =>
    have hbytes : bytesOf (c :: text) = String.utf8EncodeChar c ++ bytesOf text :=
      List.flatMap_cons
    rw [hbytes, List.append_assoc, skipString_plain fun b ↦ isPlainByte_of_mem hc, ih]
  | @short e c text he _ ih =>
    obtain ⟨hascii, hcode, hsimple⟩ := simpleEscape?_byte _ he
    rw [bytesOf_cons (by decide), bytesOf_cons hascii, List.cons_append, List.cons_append,
      skipString, if_neg (by decide), if_pos rfl]
    simp only [hcode, if_false, hsimple, Option.isSome_some, if_true, ih]
  | @code digits text n hdigits _ ih =>
    obtain ⟨hread, hlength⟩ := readHexFour_bytesOf hdigits (bytesOf text ++ byte '"' :: rest)
    rw [bytesOf_cons (by decide), bytesOf_cons (by decide), bytesOf_append, List.cons_append,
      List.cons_append, List.append_assoc, skipString, if_neg (by decide), if_pos rfl]
    simp only [if_true, hread, List.drop_left' hlength, ih]

/-! ### Numbers -/

theorem skipExponent_bytesOf {sign : List Char} (hsign : sign = [] ∨ sign = ['+'] ∨ sign = ['-'])
    {d : Char} {text : List Char} (htext : AreDigits (d :: text)) {rest : List UInt8}
    (hrest : EndsDigits rest) : skipExponent (bytesOf (sign ++ d :: text) ++ rest) = .ok rest := by
  obtain ⟨hd, hmore⟩ := List.forall_mem_cons.mp htext
  obtain ⟨hascii, hdigit, -⟩ := digit_cases hd
  have hdrop := (takeWhile_isDigit hmore hrest).2
  have hsigned : byte d ≠ byte '-' ∧ byte d ≠ byte '+' := by
    constructor <;> intro h <;> rw [h] at hdigit <;> exact absurd hdigit (by decide)
  rcases hsign with rfl | rfl | rfl
  · simp [skipExponent, bytesOf_cons hascii, hsigned, hdigit, hdrop]
  · simp [skipExponent, bytesOf_cons hascii, bytesOf_cons (c := '+') (by decide), hdigit, hdrop]
  · simp [skipExponent, bytesOf_cons hascii, bytesOf_cons (c := '-') (by decide), hdigit, hdrop]

theorem skipScale_bytesOf {exponent : List Char} (hexponent : IsExponent exponent)
    {rest : List UInt8} (hrest : EndsDocument rest) :
    skipScale (bytesOf exponent ++ rest) = .ok rest := by
  cases hexponent with
  | none =>
    cases rest with
    | nil => rfl
    | cons b rest =>
      obtain ⟨-, he, hE⟩ := hrest.ne
      rw [bytesOf_nil, List.nil_append, skipScale, if_neg (not_or.mpr ⟨he, hE⟩)]
  | @digits mark d sign text hmark hsign htext =>
    have hascii : mark.toNat < 128 ∧ (byte mark = byte 'e' ∨ byte mark = byte 'E') := by
      rcases hmark with rfl | rfl <;> decide
    rw [bytesOf_cons hascii.1, List.cons_append, skipScale, if_pos hascii.2]
    exact skipExponent_bytesOf hsign htext hrest.endsDigits

/-- No digit and no point begins an exponent, nor what follows the number. -/
theorem head_exponent {exponent : List Char} (hexponent : IsExponent exponent)
    {rest : List UInt8} (hrest : EndsDocument rest) :
    ∀ b ∈ (bytesOf exponent ++ rest).head?, isDigit b = false ∧ b ≠ byte '.' := by
  cases hexponent with
  | none =>
    cases rest with
    | nil => exact nofun
    | cons b rest =>
      intro c hc
      obtain rfl : b = c := Option.some.inj hc
      exact ⟨hrest.endsDigits b rfl, hrest.ne.1⟩
  | @digits mark d sign text hmark _ _ =>
    have hascii : mark.toNat < 128 ∧ isDigit (byte mark) = false ∧ byte mark ≠ byte '.' := by
      rcases hmark with rfl | rfl <;> decide
    rw [bytesOf_cons hascii.1]
    intro b hb
    obtain rfl : byte mark = b := Option.some.inj hb
    exact hascii.2

theorem skipAfterWhole_bytesOf {fraction exponent : List Char} (hfraction : IsFraction fraction)
    (hexponent : IsExponent exponent) {rest : List UInt8} (hrest : EndsDocument rest) :
    skipAfterWhole (bytesOf (fraction ++ exponent) ++ rest) = .ok rest := by
  have hscale := skipScale_bytesOf hexponent hrest
  cases hfraction with
  | none =>
    rw [List.nil_append]
    have hhead := head_exponent hexponent hrest
    generalize bytesOf exponent ++ rest = input at hscale hhead ⊢
    cases input with
    | nil => exact hscale
    | cons b input => rw [skipAfterWhole, if_neg (hhead b rfl).2, hscale]
  | @digits d text htext =>
    obtain ⟨htake, hdrop⟩ := takeWhile_isDigit htext fun b hb ↦
      (head_exponent hexponent hrest b hb).1
    rw [List.cons_append, bytesOf_cons (by decide), List.cons_append, bytesOf_append,
      List.append_assoc, skipAfterWhole, if_pos rfl, htake, hdrop, hscale]
    simp

theorem endsDigits_afterWhole {fraction exponent : List Char} (hfraction : IsFraction fraction)
    (hexponent : IsExponent exponent) {rest : List UInt8} (hrest : EndsDocument rest) :
    EndsDigits (bytesOf (fraction ++ exponent) ++ rest) := by
  cases hfraction with
  | none => exact fun b hb ↦ (head_exponent hexponent hrest b hb).1
  | digits =>
    rw [List.cons_append, bytesOf_cons (by decide)]
    intro b hb
    obtain rfl : byte '.' = b := Option.some.inj hb
    decide

theorem skipUnsigned_bytesOf {text : List Char} (htext : IsUnsigned text) {rest : List UInt8}
    (hrest : EndsDocument rest) : skipUnsigned (bytesOf text ++ rest) = .ok rest := by
  obtain ⟨hwhole, hfraction, hexponent⟩ := htext
  have hafter := skipAfterWhole_bytesOf hfraction hexponent hrest
  have hends := endsDigits_afterWhole hfraction hexponent hrest
  rw [bytesOf_append, List.append_assoc]
  generalize bytesOf (_ ++ _) ++ rest = input at hafter hends ⊢
  cases hwhole with
  | zero =>
    have hnone : ¬(input.head?.map isDigit).getD false = true := by
      cases input with
      | nil => simp
      | cons b input => simp [hends b rfl]
    rw [bytesOf_cons (by decide), List.cons_append, bytesOf_nil, List.nil_append, skipUnsigned,
      if_pos rfl, if_neg hnone, hafter]
  | @digits d digits hd hzero hdigits =>
    obtain ⟨hascii, hdigit, hvalue⟩ := digit_cases hd
    have hzero' : byte d ≠ byte '0' := (byte_inj hascii (by decide)).not.mpr hzero
    rw [bytesOf_cons hascii, List.cons_append, skipUnsigned, if_neg hzero', if_pos hdigit,
      (takeWhile_isDigit hdigits hends).2, hafter]

/-! ### Documents -/

theorem skipStart_gap {gap : List Char} (hgap : IsGap gap) (input : List UInt8) :
    skipStart (bytesOf gap ++ input) = skipStart input := by
  rw [skipStart, skipSpace_bytesOf hgap, ← skipStart]

theorem skipStart_word {text : String} (htext : text ∈ ["null", "true", "false"])
    (rest : List UInt8) : skipStart (bytesOf text.toList ++ rest) = .ok (none, rest) := by
  simp only [List.mem_cons, List.not_mem_nil, or_false] at htext
  rcases htext with rfl | rfl | rfl
  · obtain ⟨hword, hread⟩ := readWord_null rest
    rw [hword, List.cons_append, skipStart, skipSpace_cons (by decide)]
    simp +decide only [if_true, hread]
    rfl
  · obtain ⟨hword, hread⟩ := readWord_true rest
    rw [hword, List.cons_append, skipStart, skipSpace_cons (by decide)]
    simp +decide only [if_true, if_false, hread]
    rfl
  · obtain ⟨hword, hread⟩ := readWord_false rest
    rw [hword, List.cons_append, skipStart, skipSpace_cons (by decide)]
    simp +decide only [if_true, if_false, hread]
    rfl

theorem skipStart_unsigned {text : List Char} (htext : IsUnsigned text) {rest : List UInt8}
    (hrest : EndsDocument rest) : skipStart (bytesOf text ++ rest) = .ok (none, rest) := by
  obtain ⟨d, more, rfl, hd⟩ := htext.head
  obtain ⟨hascii, hdigit, -⟩ := digit_cases hd
  have hspace := isSpace_of_isDigit hdigit
  have hskip := skipUnsigned_bytesOf htext hrest
  rw [bytesOf_cons hascii, List.cons_append] at hskip ⊢
  rw [skipStart, skipSpace_cons hspace]
  simp only [ne_of_isDigit hdigit (show isDigit (byte 'n') = false by decide),
    ne_of_isDigit hdigit (show isDigit (byte 't') = false by decide),
    ne_of_isDigit hdigit (show isDigit (byte 'f') = false by decide),
    ne_of_isDigit hdigit (show isDigit (byte '-') = false by decide), hdigit, if_true, if_false,
    hskip]
  rfl

theorem skipStart_negative {text : List Char} (htext : IsUnsigned text) {rest : List UInt8}
    (hrest : EndsDocument rest) : skipStart (bytesOf ('-' :: text) ++ rest) = .ok (none, rest) := by
  rw [bytesOf_cons (by decide), List.cons_append, skipStart, skipSpace_cons (by decide)]
  simp +decide only [if_true, if_false, skipUnsigned_bytesOf htext hrest]
  rfl

theorem skipStart_string {body : List Char} (hbody : IsBody body) (rest : List UInt8) :
    skipStart (bytesOf ('"' :: (body ++ ['"'])) ++ rest) = .ok (none, rest) := by
  rw [bytesOf_cons (by decide), List.cons_append, skipStart, skipSpace_cons (by decide),
    bytesOf_append, List.append_assoc, bytesOf_cons (by decide), bytesOf_nil,
    List.singleton_append]
  simp +decide only [if_true, if_false, skipString_bytesOf hbody]
  rfl

/-! ### Frames -/

/-- Passes over the next item of the innermost frame and everything up to the end of all frames. -/
def enter (fuel : ℕ) (frames : List Frame) (input : List UInt8) : Except Fault (List UInt8) :=
  match frames with
  | [] => .ok input
  | .list :: _ => skipFrames fuel frames input
  | .object :: _ => skipKey input >>= skipFrames fuel frames

/-- Goes on after an item, or at the beginning of a list or an object. -/
def goOn (afterItem : Bool) (fuel : ℕ) (frames : List Frame) (input : List UInt8) :
    Except Fault (List UInt8) :=
  skipClosings afterItem frames input >>= fun (waiting, rest) ↦ enter fuel waiting rest

theorem skipFrames_of_start {opened : Option Frame} {input rest : List UInt8}
    (hstart : skipStart input = .ok (opened, rest)) (fuel : ℕ) (frames : List Frame) :
    skipFrames (fuel + 1) frames input =
      goOn opened.isNone fuel (opened.toList ++ frames) rest := by
  rw [skipFrames, hstart]
  cases opened <;> rfl

theorem goOn_nil (fuel : ℕ) (rest : List UInt8) : goOn true fuel [] rest = .ok rest := rfl

section Marks

variable {frame : Frame} {frames : List Frame} {gap : List Char} {fuel : ℕ} {afterItem : Bool}

theorem goOn_gap (hgap : IsGap gap) (rest : List UInt8) :
    goOn afterItem fuel (frame :: frames) (bytesOf gap ++ rest) =
      goOn afterItem fuel (frame :: frames) rest := by
  rw [goOn, skipClosings, skipSpace_bytesOf hgap, ← skipClosings, ← goOn]

/-- The closing bracket of a frame ends an item of the frame around it. -/
theorem goOn_closing (rest : List UInt8) :
    goOn afterItem fuel (frame :: frames) (frame.closing :: rest) =
      goOn true fuel frames rest := by
  have hmark : isSpace frame.closing = false ∧ frame.closing ≠ byte ',' := by
    cases frame <;> decide
  rw [goOn, skipClosings, skipSpace_cons hmark.1]
  simp [hmark.2, goOn]

/-- An item follows a comma. -/
theorem goOn_comma (rest : List UInt8) :
    goOn true fuel (frame :: frames) (byte ',' :: rest) = enter fuel (frame :: frames) rest := by
  rw [goOn, skipClosings, skipSpace_cons (by decide)]
  rfl

theorem enter_skipSpace (input : List UInt8) :
    enter fuel (frame :: frames) (skipSpace input) = enter fuel (frame :: frames) input := by
  have hspace : skipSpace (skipSpace input) = skipSpace input :=
    List.dropWhile_idempotent isSpace input
  cases frame with
  | list =>
    cases fuel with
    | zero => rfl
    | succ fuel => simp only [enter, skipFrames, skipStart, hspace]
  | object => simp only [enter, skipKey, hspace]

/-- The first item of a list or an object follows its opening bracket. -/
theorem goOn_first {b : UInt8} {input rest : List UInt8} (hinput : skipSpace input = b :: rest)
    (hb : b ≠ frame.closing) :
    goOn false fuel (frame :: frames) input = enter fuel (frame :: frames) input := by
  rw [← enter_skipSpace input, goOn, skipClosings, hinput]
  simp only [Bool.false_eq_true, and_false, if_false, hb]
  rfl

end Marks

/-! ### Lists and objects -/

/-- A part of a list or an object that is passed over at a cost of no more than its length. -/
structure Frame.Passes (frame : Frame) (part : List Char) : Prop where
  begins : ∀ rest, ∃ b more, skipSpace (bytesOf part ++ rest) = b :: more ∧ b ≠ frame.closing
  passes : ∃ k ≤ part.length, ∀ fuel frames rest, EndsDocument rest →
    enter (fuel + k) (frame :: frames) (bytesOf part ++ rest) =
      goOn true fuel (frame :: frames) rest

/-- What follows a part is a comma or the closing bracket. -/
theorem endsDocument_parts (frame : Frame) (parts : List (List Char)) (rest : List UInt8) :
    EndsDocument (bytesOf (parts.flatMap (',' :: ·)) ++ frame.closing :: rest) := by
  cases parts with
  | nil => cases frame <;> exact endsDocument_cons (by decide) rest
  | cons part parts =>
    rw [List.flatMap_cons, List.cons_append, bytesOf_cons (by decide)]
    exact endsDocument_cons (by decide) _

/-- Parts with a comma before each of them, up to the closing bracket. -/
theorem goOn_parts {frame : Frame} {parts : List (List Char)}
    (hparts : ∀ part ∈ parts, frame.Passes part) :
    ∃ k ≤ (parts.flatMap (',' :: ·)).length, ∀ fuel frames rest,
      goOn true (fuel + k) (frame :: frames)
          (bytesOf (parts.flatMap (',' :: ·)) ++ frame.closing :: rest) =
        goOn true fuel frames rest := by
  induction parts with
  | nil => exact ⟨0, le_rfl, fun fuel frames rest ↦ goOn_closing rest⟩
  | cons part parts ih =>
    obtain ⟨hpart, hmore⟩ := List.forall_mem_cons.mp hparts
    obtain ⟨k, hk, hpasses⟩ := hpart.passes
    obtain ⟨n, hn, hrest⟩ := ih hmore
    refine ⟨n + k, ?_, fun fuel frames rest ↦ ?_⟩
    · simp only [List.flatMap_cons, List.length_append, List.length_cons]
      omega
    · rw [List.flatMap_cons, List.cons_append, bytesOf_cons (by decide), List.cons_append,
        goOn_comma, bytesOf_append, List.append_assoc, ← Nat.add_assoc,
        hpasses _ _ _ (endsDocument_parts frame parts rest), hrest]

/-- Everything between the brackets. -/
theorem goOn_inside {frame : Frame} {parts : List (List Char)}
    (hparts : ∀ part ∈ parts, frame.Passes part) {gap : List Char} (hgap : IsGap gap) :
    ∃ k ≤ (List.intercalate [','] parts).length, ∀ fuel frames rest,
      goOn false (fuel + k) (frame :: frames)
          (bytesOf (gap ++ List.intercalate [','] parts) ++ frame.closing :: rest) =
        goOn true fuel frames rest := by
  cases parts with
  | nil =>
    refine ⟨0, le_rfl, fun fuel frames rest ↦ ?_⟩
    rw [bytesOf_append, List.append_assoc, goOn_gap hgap]
    exact goOn_closing rest
  | cons part parts =>
    obtain ⟨hpart, hmore⟩ := List.forall_mem_cons.mp hparts
    obtain ⟨k, hk, hpasses⟩ := hpart.passes
    obtain ⟨n, hn, hrest⟩ := goOn_parts hmore
    have hcut := intercalate_cons part parts
    refine ⟨n + k, ?_, fun fuel frames rest ↦ ?_⟩
    · rw [hcut, List.length_append]
      omega
    · obtain ⟨b, more, hspace, hb⟩ :=
        hpart.begins (bytesOf (parts.flatMap (',' :: ·)) ++ frame.closing :: rest)
      rw [hcut, bytesOf_append, List.append_assoc, goOn_gap hgap, bytesOf_append,
        List.append_assoc, goOn_first hspace hb, ← Nat.add_assoc,
        hpasses _ _ _ (endsDocument_parts frame parts rest), hrest]

/-! ### Documents -/

/-- A document is passed over at a cost of no more than its length. -/
def PassesOver (text : List Char) : Prop :=
  ∃ k ≤ text.length, ∀ fuel frames gap rest, IsGap gap → EndsDocument rest →
    skipFrames (fuel + k) frames (bytesOf (gap ++ text) ++ rest) = goOn true fuel frames rest

theorem passesOver_of_scalar {text : List Char} (hsome : text ≠ [])
    (hstart : ∀ rest, EndsDocument rest →
      skipStart (bytesOf text ++ rest) = .ok (none, rest)) : PassesOver text := by
  refine ⟨1, List.length_pos_iff.mpr hsome, fun fuel frames gap rest hgap hrest ↦ ?_⟩
  rw [bytesOf_append, List.append_assoc]
  exact skipFrames_of_start ((skipStart_gap hgap _).trans (hstart rest hrest)) fuel frames

/-- What stands between the white space around an item. -/
theorem enter_list {document : List Char} {k : ℕ} (hpasses : ∀ fuel frames gap rest, IsGap gap →
      EndsDocument rest → skipFrames (fuel + k) frames (bytesOf (gap ++ document) ++ rest) =
        goOn true fuel frames rest)
    {before after : List Char} (hbefore : IsGap before) (hafter : IsGap after) (fuel : ℕ)
    (frame : Frame) (frames : List Frame) {rest : List UInt8} (hrest : EndsDocument rest) :
    skipFrames (fuel + k) (frame :: frames) (bytesOf (before ++ (document ++ after)) ++ rest) =
      goOn true fuel (frame :: frames) rest := by
  rw [← List.append_assoc before, bytesOf_append, List.append_assoc,
    hpasses fuel _ before _ hbefore (hrest.gap hafter), goOn_gap hafter]

theorem passes_item {item : Item} (hspaced : item.IsSpaced) (hdocument : IsDocument item.document)
    (hpasses : PassesOver item.document) : Frame.list.Passes item.text := by
  obtain ⟨hbefore, hafter⟩ := hspaced
  refine ⟨fun rest ↦ ?begins, ?passes⟩
  case begins =>
    obtain ⟨c, more, hc, hascii, hspace, hclosing⟩ := hdocument.head
    refine ⟨byte c, bytesOf (more ++ item.after) ++ rest, ?_, hclosing⟩
    rw [Item.text, hc, bytesOf_append, List.append_assoc, skipSpace_bytesOf hbefore,
      List.cons_append, bytesOf_cons hascii, List.cons_append, skipSpace_cons hspace]
  case passes =>
    obtain ⟨k, hk, hpasses⟩ := hpasses
    refine ⟨k, ?_, fun fuel frames rest hrest ↦
      enter_list hpasses hbefore hafter fuel .list frames hrest⟩
    simp only [Item.text, List.length_append]
    omega

theorem skipKey_member {member : Member} (hspaced : member.IsSpaced)
    (hname : IsBody member.name.document) (rest : List UInt8) :
    skipKey (bytesOf member.text ++ rest) = .ok (bytesOf member.value.text ++ rest) := by
  rw [skipKey, skipSpace_member hspaced]
  simp only [if_true, skipString_bytesOf hname]
  exact readColon_bytesOf hspaced.1.2 _

theorem passes_member {member : Member} (hspaced : member.IsSpaced)
    (hname : IsBody member.name.document) (hpasses : PassesOver member.value.document) :
    Frame.object.Passes member.text := by
  refine ⟨fun rest ↦ ⟨_, _, skipSpace_member hspaced rest, by decide⟩, ?passes⟩
  case passes =>
    obtain ⟨k, hk, hpasses⟩ := hpasses
    refine ⟨k, ?_, fun fuel frames rest hrest ↦ ?_⟩
    · simp only [Member.text, Item.text, List.length_append, List.length_cons]
      omega
    · rw [enter, skipKey_member hspaced hname]
      exact enter_list hpasses hspaced.2.1 hspaced.2.2 fuel .object frames hrest

/-- Brackets and what is between them. -/
theorem passesOver_of_parts (frame : Frame) {opening closing : Char}
    (hopening : opening.toNat < 128)
    (hstart : ∀ rest, skipStart (byte opening :: rest) = .ok (some frame, rest))
    (hclosing : bytesOf [closing] = [frame.closing]) {gap : List Char} (hgap : IsGap gap)
    {parts : List (List Char)} (hparts : ∀ part ∈ parts, frame.Passes part) :
    PassesOver (opening :: (gap ++ (List.intercalate [','] parts ++ [closing]))) := by
  obtain ⟨k, hk, hinside⟩ := goOn_inside hparts hgap
  refine ⟨k + 1, ?_, fun fuel frames before rest hbefore _ ↦ ?_⟩
  · simp only [List.length_cons, List.length_append]
    omega
  · have htext : bytesOf (before ++ opening :: (gap ++ (List.intercalate [','] parts ++ [closing])))
        ++ rest = bytesOf before ++ byte opening ::
          (bytesOf (gap ++ List.intercalate [','] parts) ++ frame.closing :: rest) := by
      rw [bytesOf_append, bytesOf_cons hopening, ← List.append_assoc gap, bytesOf_append, hclosing]
      simp
    rw [htext, ← Nat.add_assoc,
      skipFrames_of_start ((skipStart_gap hbefore _).trans (hstart _))]
    exact hinside fuel frames rest

theorem IsDocument.passesOver {text : List Char} (htext : IsDocument text) : PassesOver text := by
  have hsome : ∀ {text : List Char}, IsDocument text → text ≠ [] := by
    rintro text htext rfl
    obtain ⟨c, more, hcons, -⟩ := htext.head
    cases hcons
  induction htext with
  | word hword =>
    exact passesOver_of_scalar (hsome (.word hword)) fun rest _ ↦ skipStart_word hword rest
  | positive htext =>
    exact passesOver_of_scalar (hsome (.positive htext)) fun rest ↦ skipStart_unsigned htext
  | negative htext => exact passesOver_of_scalar nofun fun rest ↦ skipStart_negative htext
  | string hbody => exact passesOver_of_scalar nofun fun rest _ ↦ skipStart_string hbody rest
  | list hgap hspaced hitems ih =>
    refine passesOver_of_parts .list (by decide) (fun rest ↦ ?start) rfl hgap ?parts
    case start =>
      rw [skipStart, skipSpace_cons (by decide)]
      simp +decide only [if_true, if_false]
    case parts =>
      intro part hpart
      obtain ⟨item, hitem, rfl⟩ := List.mem_map.mp hpart
      exact passes_item (hspaced item hitem) (hitems item hitem) (ih item hitem)
  | object hgap hspaced hnames hvalues ih =>
    refine passesOver_of_parts .object (by decide) (fun rest ↦ ?start) rfl hgap ?parts
    case start =>
      rw [skipStart, skipSpace_cons (by decide)]
      simp +decide only [if_true, if_false]
    case parts =>
      intro part hpart
      obtain ⟨member, hmember, rfl⟩ := List.mem_map.mp hpart
      exact passes_member (hspaced member hmember) (hnames member hmember) (ih member hmember)

theorem length_le_bytesOf (text : List Char) : text.length ≤ (bytesOf text).length := by
  induction text with
  | nil => exact le_rfl
  | cons c text ih =>
    obtain ⟨b, bytes, hc, -⟩ := Utf8.exists_encodeChar c
    have hbytes : bytesOf (c :: text) = b :: (bytes ++ bytesOf text) := by
      rw [bytesOf, List.flatMap_cons, hc, List.cons_append, ← bytesOf]
    rw [hbytes, List.length_cons, List.length_cons, List.length_append]
    omega

/-- A document is passed over, whatever it is and whatever follows it. -/
theorem skip_bytesOf {text gap : List Char} (htext : IsDocument text) (hgap : IsGap gap)
    {rest : List UInt8} (hrest : EndsDocument rest) :
    skip (bytesOf (gap ++ text) ++ rest) = .ok rest := by
  obtain ⟨k, hk, hpasses⟩ := htext.passesOver
  have hlength := length_le_bytesOf text
  obtain ⟨fuel, hfuel⟩ : ∃ fuel, (bytesOf (gap ++ text) ++ rest).length + 1 = fuel + k := by
    refine ⟨(bytesOf (gap ++ text) ++ rest).length + 1 - k, ?_⟩
    rw [List.length_append, bytesOf_append, List.length_append]
    omega
  rw [skip, hfuel, hpasses fuel [] gap rest hgap hrest, goOn_nil]

end Errand.Json
