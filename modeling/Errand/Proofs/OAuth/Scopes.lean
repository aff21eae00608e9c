import Errand.OAuth.Scope
import Errand.Proofs.Text.Blank
import Mathlib

/-!
Lists of scopes are read from any text. A token is one word and names its scope (`isBlank_token`,
`ofToken?_token`), so the tokens of a list are found one by one (`readList_join`). A word that is no
token is passed over (`named_iff`), and two texts with white space between them are read one after
the other (`readList_append_gap`). `lists_follow_runs` joins these with the runs of a text.
-/

set_option autoImplicit false

namespace Errand.OAuth.Scope

theorem isBlank_token (s : Scope) : ∀ c ∈ s.token.toList, Blank.isBlank c = false := by
  have hall : (s.token.toList.all fun c ↦ !Blank.isBlank c) = true := by cases s <;> rfl
  simpa using hall

theorem token_ne_nil (s : Scope) : s.token.toList ≠ [] := by
  cases s <;> simp [token]

theorem ofToken?_token (s : Scope) : ofToken? s.token = some s := by
  cases s <;> decide

theorem token_of_ofToken? {word : String} {s : Scope} (h : ofToken? word = some s) :
    s.token = word := by
  have hfound := List.find?_some h
  exact of_decide_eq_true hfound

theorem words_join (scopes : List Scope) :
    Blank.words (join scopes).toList = scopes.map fun s ↦ s.token.toList := by
  induction scopes with
  | nil => rfl
  | cons s scopes ih =>
    cases scopes with
    | nil => simpa [join] using Blank.words_of_notBlank (isBlank_token s) (token_ne_nil s)
    | cons t scopes =>
      have hcut : (join (s :: t :: scopes)).toList =
          s.token.toList ++ ' ' :: (join (t :: scopes)).toList := by
        simp [join]
      rw [hcut, Blank.words_append (isBlank_token s) (token_ne_nil s) rfl, ih]
      rfl

theorem readList_join (scopes : List Scope) : readList (join scopes) = scopes := by
  have hread : ∀ s : Scope, ofToken? (String.ofList s.token.toList) = some s := fun s ↦ by
    rw [String.ofList_toList, ofToken?_token]
  rw [readList, words_join, List.filterMap_map, Function.comp_def]
  simp only [hread, List.filterMap_some]

/-- The scopes that some words name, in order. A word that is the token of no scope is passed
over. -/
inductive Named : List (List Char) → List Scope → Prop
  | nil : Named [] []
  | scope (s : Scope) {words : List (List Char)} {scopes : List Scope} (h : Named words scopes) :
    Named (s.token.toList :: words) (s :: scopes)
  | other {word : List Char} (hother : ∀ s : Scope, s.token.toList ≠ word)
    {words : List (List Char)} {scopes : List Scope} (h : Named words scopes) :
    Named (word :: words) scopes

/-- What is found for each word is what the words name. -/
theorem named_iff {words : List (List Char)} {scopes : List Scope} :
    Named words scopes ↔ words.filterMap (fun word ↦ ofToken? (String.ofList word)) = scopes := by
  constructor
  · intro h
    induction h with
    | nil => rfl
    | scope s _ ih =>
      have hfound : ofToken? (String.ofList s.token.toList) = some s := by
        rw [String.ofList_toList, ofToken?_token]
      rw [List.filterMap_cons_some (f := fun word ↦ ofToken? (String.ofList word)) hfound, ih]
    | @other word hother _ _ _ ih =>
      have hnone : ofToken? (String.ofList word) = none := by
        refine Option.eq_none_iff_forall_ne_some.mpr fun s hfound ↦ hother s ?_
        rw [token_of_ofToken? hfound, String.toList_ofList]
      rw [List.filterMap_cons_none (f := fun word ↦ ofToken? (String.ofList word)) hnone, ih]
  · rintro rfl
    induction words with
    | nil => exact .nil
    | cons word words ih =>
      rw [List.filterMap_cons]
      cases hfound : ofToken? (String.ofList word) with
      | none =>
        refine .other (fun s htoken ↦ ?_) ih
        rw [← htoken, String.ofList_toList, ofToken?_token] at hfound
        cases hfound
      | some s =>
        have htoken : s.token.toList = word := by
          rw [token_of_ofToken? hfound, String.toList_ofList]
        exact htoken ▸ .scope s ih

/-- White space between two texts keeps what they name apart. -/
theorem readList_append_gap {gap : String} (hgap : ∀ c ∈ gap.toList, Blank.isBlank c = true)
    (hsome : gap ≠ "") (text rest : String) :
    readList (text ++ gap ++ rest) = readList text ++ readList rest := by
  have hcut : (text ++ gap ++ rest).toList = text.toList ++ gap.toList ++ rest.toList := by
    rw [String.toList_append, String.toList_append]
  have hnil : gap.toList ≠ [] := fun h ↦ hsome (String.toList_injective h)
  rw [readList, hcut, Blank.words_append_gap hgap hnil, List.filterMap_append]
  rfl

/-- A text lists the scopes named by its runs, in order and with repetitions, and nothing else. So
a list is read back from its text, texts with white space between them are read one after the other,
and writing what was read changes it at most once. -/
theorem lists_follow_runs :
    (∀ text scopes, readList text = scopes ↔
      ∃ runs, Blank.Runs text.toList runs ∧ Named runs scopes) ∧
      (∀ scopes, readList (join scopes) = scopes) ∧
      (∀ text gap rest, gap ≠ "" → (∀ c ∈ gap.toList, Blank.isBlank c = true) →
        readList (text ++ gap ++ rest) = readList text ++ readList rest) ∧
      ∀ text, join (readList (join (readList text))) = join (readList text) := by
  refine ⟨fun text scopes ↦ ?runs, readList_join, fun text gap rest hsome hgap ↦ ?gap,
    fun text ↦ ?again⟩
  case runs =>
    simp only [← Blank.words_eq_iff, exists_eq_left', named_iff]
    rfl
  case gap => exact readList_append_gap hgap hsome text rest
  case again => rw [readList_join]

/-- One token begins with another, an unknown one stands between them, and an em space is white
space. -/
theorem lists_follow_runs_of_prefixes :
    "\u2003\t" ≠ "" ∧ (∀ c ∈ "\u2003\t".toList, Blank.isBlank c = true) ∧
      readList ("guilds rpc" ++ "\u2003\t" ++ "guilds.join guilds")
        = [guilds, guildsJoin, guilds] := by
  have hsome : "\u2003\t" ≠ "" := by decide
  have hgap : ∀ c ∈ "\u2003\t".toList, Blank.isBlank c = true := List.all_eq_true.mp rfl
  refine ⟨hsome, hgap, ?_⟩
  rw [lists_follow_runs.2.2.1 _ _ _ hsome hgap]
  decide +kernel

end Errand.OAuth.Scope
