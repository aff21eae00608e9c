import Errand.Json
import Mathlib

/-!
How the pieces of a text are told apart. A mark that does not occur in what stands before it, or in
what stands after it, shows where a text was put together (`append_cons_inj_of_notMem_left`,
`append_cons_inj_of_notMem_right`), and so does a way to read off the first of several words that
follow each other without marks (`flatMap_injective_of_read`). Numbers are written with digits only
(`notMem_toList_toString`), and what stands in the quotes of a JSON string is written character by
character (`Json.writeString_injective`).
-/

set_option autoImplicit false

namespace Errand

variable {A B : Type} {c : A} {x x' y y' : List A}

/-! ### Marks -/

/-- Texts put together at the first occurrence of a mark. -/
theorem append_cons_inj_of_notMem_left (hx : c ∉ x) (hx' : c ∉ x')
    (h : x ++ c :: y = x' ++ c :: y') : x = x' ∧ y = y' := by
  induction x generalizing x' with
  | nil =>
    cases x' with
    | nil => exact ⟨rfl, (List.cons.inj h).2⟩
    | cons a x' => exact absurd (List.mem_cons.mpr (Or.inl (List.cons.inj h).1)) hx'
  | cons a x ih =>
    cases x' with
    | nil => exact absurd (List.mem_cons.mpr (Or.inl (List.cons.inj h).1.symm)) hx
    | cons a' x' =>
      obtain ⟨rfl, hrest⟩ := List.cons.inj h
      obtain ⟨rfl, hy⟩ :=
        ih (List.not_mem_of_not_mem_cons hx) (List.not_mem_of_not_mem_cons hx') hrest
      exact ⟨rfl, hy⟩

/-- Texts put together at the last occurrence of a mark. -/
theorem append_cons_inj_of_notMem_right (hy : c ∉ y) (hy' : c ∉ y')
    (h : x ++ c :: y = x' ++ c :: y') : x = x' ∧ y = y' := by
  have hreverse : y.reverse ++ c :: x.reverse = y'.reverse ++ c :: x'.reverse := by
    simpa using congrArg List.reverse h
  obtain ⟨hy, hx⟩ :=
    append_cons_inj_of_notMem_left (by simpa using hy) (by simpa using hy') hreverse
  exact ⟨List.reverse_injective hx, List.reverse_injective hy⟩

/-- Texts with a mark in front of every part that it does not occur in. -/
theorem eq_of_flatMap_cons_eq {parts parts' : List (List A)} (hparts : ∀ x ∈ parts, c ∉ x)
    (hparts' : ∀ x ∈ parts', c ∉ x)
    (h : parts.flatMap (c :: ·) = parts'.flatMap (c :: ·)) : parts = parts' := by
  -- With a mark after the last part as well, every part ends at a mark.
  have hends : ∀ parts : List (List A),
      c :: parts.flatMap (· ++ [c]) = parts.flatMap (c :: ·) ++ [c] := by
    intro parts
    induction parts with
    | nil => rfl
    | cons x parts ih => simp [ih]
  have hends' : parts.flatMap (· ++ [c]) = parts'.flatMap (· ++ [c]) := by
    simpa [← hends] using congrArg (· ++ [c]) h
  clear h hends
  induction parts generalizing parts' with
  | nil =>
    cases parts' with
    | nil => rfl
    | cons x' parts' => simp at hends'
  | cons x parts ih =>
    cases parts' with
    | nil => simp at hends'
    | cons x' parts' =>
      obtain ⟨hx, hmore⟩ := List.forall_mem_cons.mp hparts
      obtain ⟨hx', hmore'⟩ := List.forall_mem_cons.mp hparts'
      obtain ⟨rfl, hrest⟩ := append_cons_inj_of_notMem_left hx hx' (by simpa using hends')
      exact congrArg (x :: ·) (ih hmore hmore' hrest)

/-! ### Words -/

/-- Words follow each other without marks if the first one can be read off. -/
theorem flatMap_injective_of_read {write : A → List B} {read : List B → Option A}
    (hnil : read [] = none) (hread : ∀ a rest, read (write a ++ rest) = some a) :
    Function.Injective (List.flatMap write) := by
  have hwrite : ∀ a rest, write a ++ rest ≠ [] := by
    intro a rest hempty
    simpa [hempty, hnil] using hread a rest
  intro xs ys h
  induction xs generalizing ys with
  | nil =>
    cases ys with
    | nil => rfl
    | cons b ys => exact absurd h.symm (hwrite b _)
  | cons a xs ih =>
    cases ys with
    | nil => exact absurd h (hwrite a _)
    | cons b ys =>
      simp only [List.flatMap_cons] at h
      have hfirst := hread a (xs.flatMap write)
      rw [h, hread] at hfirst
      obtain rfl := Option.some.inj hfirst
      rw [ih (List.append_cancel_left h)]

/-! ### Numbers -/

/-- A number is written with digits only. -/
theorem notMem_toList_toString {c : Char} (hc : c.isDigit = false) (n : ℕ) :
    c ∉ (toString n).toList := by
  intro hmem
  rw [Nat.toString_eq_ofList_toDigits, String.toList_ofList] at hmem
  simp [Nat.isDigit_of_mem_toDigits (by decide) (by decide) hmem] at hc

/-! ### Strings of documents -/

namespace Json

theorem hexValue?_digit : ∀ n < 16, Form.hexValue? (Hex.digit n) = some n := by decide

/-- The character that an escape stands for, its backslash having been read. -/
def escaped? : List Char → Option Char
  | 'u' :: _ :: _ :: high :: low :: _ => do
    some (Char.ofNat (16 * (← Form.hexValue? high) + (← Form.hexValue? low)))
  | 'b' :: _ => some '\x08'
  | 'f' :: _ => some '\x0c'
  | 'n' :: _ => some '\n'
  | 'r' :: _ => some '\r'
  | 't' :: _ => some '\t'
  | c :: _ => some c
  | [] => none

/-- The character that the text inside quotes begins with. -/
def firstChar? : List Char → Option Char
  | [] => none
  | c :: rest => if c = '\\' then escaped? rest else some c

theorem firstChar?_writeChar (c : Char) (rest : List Char) :
    firstChar? (writeChar c ++ rest) = some c := by
  unfold writeChar
  split_ifs with hquote hslash hb hf hn hr ht hcontrol
  · simp [firstChar?, escaped?, hquote]
  · simp [firstChar?, escaped?, hslash]
  · simp [firstChar?, escaped?, hb]
  · simp [firstChar?, escaped?, hf]
  · simp [firstChar?, escaped?, hn]
  · simp [firstChar?, escaped?, hr]
  · simp [firstChar?, escaped?, ht]
  · have hhigh := hexValue?_digit (c.toNat / 16) (by omega)
    have hlow := hexValue?_digit (c.toNat % 16) (by omega)
    simp [firstChar?, escaped?, hhigh, hlow, Nat.div_add_mod, Char.ofNat_toNat]
  · simp [firstChar?, hslash]

theorem writeString_injective : Function.Injective writeString := by
  intro s s' h
  have hchars : s.toList.flatMap writeChar = s'.toList.flatMap writeChar := by
    simpa [writeString] using h
  exact String.toList_inj.mp (flatMap_injective_of_read rfl firstChar?_writeChar hchars)

end Json

end Errand
