import Errand.Text.Blank
import Mathlib.Data.List.TakeWhile

/-!
White space in texts, without a reader. `Runs` says what the words of a text are: runs of characters
other than white space, each as long as can be, with white space before, between and after them. A
run in progress is ended by white space and by nothing else (`wordsFrom_append_blank`), so a text is
cut at any of its white space without harm (`words_append_blank`, `words_append_gap`), and the words
are the runs (`words_eq_iff`).

`Framed` says what a text is without the white space at its two ends, and trimming finds it
(`trim_eq_iff`).
-/

set_option autoImplicit false

namespace Errand

section Ends

variable {A : Type} {p : A → Bool} {run rest : List A}

/-- A run is taken up to what ends it. -/
theorem takeWhile_append_of_ends (hrun : ∀ a ∈ run, p a = true)
    (hends : ∀ a ∈ rest.head?, p a = false) : (run ++ rest).takeWhile p = run := by
  rw [List.takeWhile_append_of_pos hrun]
  cases rest with
  | nil => exact List.append_nil run
  | cons a rest =>
    rw [List.takeWhile_cons_of_neg (by simp [hends a rfl]), List.append_nil]

/-- A run is dropped up to what ends it. -/
theorem dropWhile_append_of_ends (hrun : ∀ a ∈ run, p a = true)
    (hends : ∀ a ∈ rest.head?, p a = false) : (run ++ rest).dropWhile p = rest := by
  rw [List.dropWhile_append_of_pos hrun]
  cases rest with
  | nil => rfl
  | cons a rest => exact List.dropWhile_cons_of_neg (by simp [hends a rfl])

/-- What is dropped ends at something else. -/
theorem head?_dropWhile_eq_false (run : List A) : ∀ a ∈ (run.dropWhile p).head?, p a = false := by
  intro a ha
  have hhead := List.head?_dropWhile_not p run
  rwa [Option.mem_def.mp ha] at hhead

end Ends

namespace Blank

/-- The text is white space around and between the given runs of other characters. After a run the
text is over or goes on with white space, so no run can be made longer. -/
inductive Runs : List Char → List (List Char) → Prop
  | gap {gap : List Char} (hgap : ∀ c ∈ gap, isBlank c = true) : Runs gap []
  | run {gap word rest : List Char} {words : List (List Char)} (hgap : ∀ c ∈ gap, isBlank c = true)
    (hword : ∀ c ∈ word, isBlank c = false) (hsome : word ≠ [])
    (hend : ∀ c ∈ rest.head?, isBlank c = true) (hrest : Runs rest words) :
    Runs (gap ++ (word ++ rest)) (word :: words)

variable {blank : Char} {gap word text rest : List Char} {runs : List (List Char)}

/-- White space in front is no part of any run. -/
theorem Runs.cons_blank (hblank : isBlank blank = true) (h : Runs text runs) :
    Runs (blank :: text) runs := by
  cases h with
  | gap hgap => exact .gap (List.forall_mem_cons.mpr ⟨hblank, hgap⟩)
  | run hgap hword hsome hend hrest =>
    exact .run (List.forall_mem_cons.mpr ⟨hblank, hgap⟩) hword hsome hend hrest

/-! ### Cutting a text -/

/-- What is no white space continues the current run. -/
theorem wordsFrom_append (hword : ∀ c ∈ word, isBlank c = false) (run rest : List Char) :
    wordsFrom run (word ++ rest) = wordsFrom (word.reverse ++ run) rest := by
  induction word generalizing run with
  | nil => rfl
  | cons c word ih =>
    obtain ⟨hc, hmore⟩ := List.forall_mem_cons.mp hword
    rw [List.cons_append, wordsFrom, if_neg (by simp [hc]), ih hmore, List.reverse_cons,
      List.append_assoc, List.singleton_append]

/-- What comes after white space has no part in what was begun before it. -/
theorem wordsFrom_append_blank (hblank : isBlank blank = true) (run text rest : List Char) :
    wordsFrom run (text ++ blank :: rest) = wordsFrom run text ++ words rest := by
  induction text generalizing run with
  | nil =>
    rw [List.nil_append, wordsFrom, wordsFrom, if_pos hblank]
    split <;> rfl
  | cons c text ih =>
    rw [List.cons_append, wordsFrom, wordsFrom]
    split
    · split
      · exact ih []
      · rw [ih [], List.cons_append]
    · exact ih (c :: run)

theorem words_append_blank (hblank : isBlank blank = true) (text rest : List Char) :
    words (text ++ blank :: rest) = words text ++ words rest :=
  wordsFrom_append_blank hblank [] text rest

theorem words_gap_append (hgap : ∀ c ∈ gap, isBlank c = true) (rest : List Char) :
    words (gap ++ rest) = words rest := by
  induction gap with
  | nil => rfl
  | cons c gap ih =>
    obtain ⟨hc, hmore⟩ := List.forall_mem_cons.mp hgap
    exact (words_append_blank hc [] _).trans (ih hmore)

/-- Two texts with white space between them are read one after the other. -/
theorem words_append_gap (hgap : ∀ c ∈ gap, isBlank c = true) (hsome : gap ≠ [])
    (text rest : List Char) : words (text ++ gap ++ rest) = words text ++ words rest := by
  cases gap with
  | nil => exact absurd rfl hsome
  | cons c gap =>
    obtain ⟨hc, hmore⟩ := List.forall_mem_cons.mp hgap
    rw [List.append_assoc, List.cons_append, words_append_blank hc, words_gap_append hmore]

/-- A run at the end of a text is a word. -/
theorem words_of_notBlank (hword : ∀ c ∈ word, isBlank c = false) (hsome : word ≠ []) :
    words word = [word] := by
  have hrun := wordsFrom_append hword [] []
  rw [List.append_nil, List.append_nil] at hrun
  rw [words, hrun, wordsFrom, if_neg (by simpa using hsome), List.reverse_reverse]

/-- A run that white space ends is a word. -/
theorem words_append (hword : ∀ c ∈ word, isBlank c = false) (hsome : word ≠ [])
    (hblank : isBlank blank = true) (rest : List Char) :
    words (word ++ blank :: rest) = word :: words rest := by
  rw [words_append_blank hblank, words_of_notBlank hword hsome, List.singleton_append]

/-! ### Words and runs -/

/-- Reading in the middle of a run comes to the runs of the whole. -/
theorem runs_wordsFrom (run text : List Char) (hrun : ∀ c ∈ run, isBlank c = false) :
    Runs (run.reverse ++ text) (wordsFrom run text) := by
  have hword {run : List Char} (hrun : ∀ c ∈ run, isBlank c = false) :
      ∀ c ∈ run.reverse, isBlank c = false := by simpa using hrun
  induction text generalizing run with
  | nil =>
    rw [wordsFrom]
    split
    case isTrue hnone =>
      obtain rfl : run = [] := by simpa using hnone
      exact .gap nofun
    case isFalse hsome =>
      exact @Runs.run [] _ [] _ nofun (hword hrun) (by simpa using hsome) nofun (.gap nofun)
  | cons c text ih =>
    rw [wordsFrom]
    split
    case isTrue hblank =>
      have hrest : Runs (c :: text) (wordsFrom [] text) := (ih [] nofun).cons_blank hblank
      split
      case isTrue hnone =>
        obtain rfl : run = [] := by simpa using hnone
        exact hrest
      case isFalse hsome =>
        refine @Runs.run [] _ _ _ nofun (hword hrun) (by simpa using hsome) ?_ hrest
        rintro _ ⟨⟩
        exact hblank
    case isFalse hother =>
      have hlonger := ih (c :: run) (List.forall_mem_cons.mpr ⟨by simpa using hother, hrun⟩)
      rwa [List.reverse_cons, List.append_assoc, List.singleton_append] at hlonger

theorem Runs.words_eq (h : Runs text runs) : words text = runs := by
  induction h with
  | @gap gap hgap =>
    have hall := words_gap_append hgap []
    rwa [List.append_nil] at hall
  | @run gap word rest runs hgap hword hsome hend _ ih =>
    rw [words_gap_append hgap]
    cases rest with
    | nil =>
      obtain rfl : [] = runs := ih
      rw [List.append_nil, words_of_notBlank hword hsome]
    | cons c rest =>
      have hc : isBlank c = true := hend c rfl
      rw [words_append hword hsome hc, ← ih]
      exact congrArg _ (words_append_blank hc [] rest).symm

/-- The words of a text are its runs, and nothing else is. -/
theorem words_eq_iff : words text = runs ↔ Runs text runs := by
  refine ⟨?_, Runs.words_eq⟩
  rintro rfl
  exact runs_wordsFrom [] text nofun

/-! ### The two ends -/

/-- The whole is the core with white space around it, and the core neither begins nor ends with
any. -/
def Framed (whole core : List Char) : Prop :=
  ∃ front back, whole = front ++ (core ++ back) ∧ (∀ c ∈ front, isBlank c = true) ∧
    (∀ c ∈ back, isBlank c = true) ∧ (∀ c ∈ core.head?, isBlank c = false) ∧
    ∀ c ∈ core.getLast?, isBlank c = false

theorem framed_trim (text : List Char) : Framed text (trim text) := by
  have hfront := List.takeWhile_append_dropWhile (p := isBlank) (l := text)
  have hback := List.takeWhile_append_dropWhile (p := isBlank)
    (l := (text.dropWhile isBlank).reverse)
  have hsplit : text.dropWhile isBlank =
      trim text ++ ((text.dropWhile isBlank).reverse.takeWhile isBlank).reverse := by
    rw [trim, ← List.reverse_append, hback, List.reverse_reverse]
  refine ⟨text.takeWhile isBlank, _, hsplit ▸ hfront.symm, fun c hc ↦ List.mem_takeWhile_imp hc,
    fun c hc ↦ List.mem_takeWhile_imp (List.mem_reverse.mp hc), fun c hc ↦ ?_, fun c hc ↦ ?_⟩
  · have hhead : c ∈ (text.dropWhile isBlank).head? := by
      rw [hsplit, List.head?_append, Option.mem_def.mp hc]
      rfl
    exact head?_dropWhile_eq_false text c hhead
  · rw [trim, List.getLast?_reverse] at hc
    exact head?_dropWhile_eq_false _ c hc

theorem Framed.trim_eq {whole core : List Char} (h : Framed whole core) : trim whole = core := by
  obtain ⟨front, back, rfl, hfront, hback, hhead, hlast⟩ := h
  cases core with
  | nil =>
    have hall : (front ++ ([] ++ back)).dropWhile isBlank = [] :=
      List.dropWhile_eq_nil_iff.mpr (List.forall_mem_append.mpr ⟨hfront, hback⟩)
    rw [trim, hall]
    rfl
  | cons c core =>
    have hmiddle : ((c :: core) ++ back).head? = (c :: core).head? := rfl
    rw [trim, dropWhile_append_of_ends hfront (by rwa [hmiddle]), List.reverse_append,
      dropWhile_append_of_ends (by simpa using hback) (by rwa [List.head?_reverse]),
      List.reverse_reverse]

/-- Trimming finds the core of a text. -/
theorem trim_eq_iff {whole core : List Char} : trim whole = core ↔ Framed whole core := by
  refine ⟨?_, Framed.trim_eq⟩
  rintro rfl
  exact framed_trim whole

end Blank

end Errand
