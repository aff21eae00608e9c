import Errand.Answer
import Errand.Proofs.Binary64.Decimals

/-!
What a rate limit asks for. A header is found by its name, whatever the case of its letters, and of
several the first one counts (`header?_eq_some_iff`). Of its value the white space at the two ends
does not matter (`retryAfter?_of_framed`). What is left is read as a double, and is a delay unless
it is no number or out of range; a decimal number of seconds is a delay of as many seconds, to the
nanosecond (`answer_asks_exactly`).
-/

set_option autoImplicit false

namespace Errand

namespace Response

variable {r : Response} {name value : String} {core : List Char}

/-- The value of the first header with the given name, up to the case of ASCII letters. -/
def FirstHeader (r : Response) (name value : String) : Prop :=
  ∃ before called after, r.headers = before ++ (called, value) :: after ∧
    sameName called name = true ∧ ∀ header ∈ before, sameName header.1 name = false

theorem header?_eq_some_iff : r.header? name = some value ↔ r.FirstHeader name value := by
  rw [header?, Option.map_eq_some_iff]
  simp only [List.find?_eq_some_iff_append, Bool.not_eq_true', FirstHeader]
  constructor
  · rintro ⟨⟨called, _⟩, ⟨hcalled, before, after, hheaders, hbefore⟩, rfl⟩
    exact ⟨before, called, after, hheaders, hcalled, hbefore⟩
  · rintro ⟨before, called, after, hheaders, hcalled, hbefore⟩
    exact ⟨(called, value), ⟨hcalled, before, after, hheaders, hbefore⟩, rfl⟩

theorem header?_eq_none (hnone : ∀ header ∈ r.headers, sameName header.1 name = false) :
    r.header? name = none := by
  have hfound : r.headers.find? (sameName ·.1 name) = none :=
    List.find?_eq_none.mpr fun header hheader ↦ by simp [hnone header hheader]
  rw [header?, hfound, Option.map_none]

/-- The delay is read from the first header, without the white space around its value. -/
theorem retryAfter?_of_framed (hvalue : r.FirstHeader "retry-after" value)
    (hcore : Blank.Framed value.toList core) :
    r.retryAfter? = (Binary64.read? (String.ofList core)).bind Duration.ofSeconds? := by
  rw [retryAfter?, header?_eq_some_iff.mpr hvalue, Option.bind_eq_bind, Option.bind_some, trimmed,
    hcore.trim_eq, Option.bind_eq_bind]

/-- What is read is a delay unless it is out of range. -/
theorem bind_ofSeconds?_eq_none_iff {text : String} :
    (Binary64.read? text).bind Duration.ofSeconds? = none ↔
      ∀ seconds, Binary64.read? text = some seconds → Duration.NoSpan seconds := by
  rw [Option.bind_eq_none_iff]
  refine forall₂_congr fun seconds hread ↦ ?_
  exact Duration.ofSeconds?_eq_none_iff (Binary64.rounded_of_read? hread)

end Response

open Response in
/-- A rate limit asks for the delay in its first `retry-after` header. A decimal number below
`2 ^ 23` with nine places at most is exact to the nanosecond, and no delay is asked for by what is
no number, or is one out of range. -/
theorem Request.answer_asks_exactly {α : Type} (request : Request α) (response : Response)
    (hstatus : response.status = 429) :
    ∃ delay, request.answer response = .failure (.rateLimited response.isGlobalLimit delay) ∧
      ((∀ header ∈ response.headers, sameName header.1 "retry-after" = false) → delay = none) ∧
      ∀ value core, response.FirstHeader "retry-after" value → Blank.Framed value.toList core →
        (∀ n : Binary64.Numeral, core = n.text → n.wholePart < 8388608 → n.places ≤ 9 →
          delay.map Duration.nanos =
            if n.negative = true ∧ n.billionths ≠ 0 then none else some n.billionths) ∧
        (delay = none ↔ ∀ seconds,
          Binary64.read? (String.ofList core) = some seconds → Duration.NoSpan seconds) := by
  have hfails : ¬response.isSuccess = true := by
    rw [isSuccess, hstatus]
    decide
  refine ⟨response.retryAfter?, ?_, fun hnone ↦ ?_, fun value core hvalue hcore ↦ ⟨?_, ?_⟩⟩
  · rw [answer, if_neg hfails, if_pos hstatus]
  · rw [retryAfter?, header?_eq_none hnone]
    rfl
  · rintro n rfl hwhole hplaces
    rw [retryAfter?_of_framed hvalue hcore]
    exact n.ofSeconds?_read? hwhole hplaces
  · rw [retryAfter?_of_framed hvalue hcore]
    exact bind_ofSeconds?_eq_none_iff

/-- The greatest delay that is read exactly, between a header with a longer name and a second one
with the same name. -/
theorem Request.answer_asks_exactly_of_greatest :
    let request : Request Unit := ⟨⟨.get, "a"⟩, .empty, [], true, fun _ ↦ .ok none, "Get"⟩
    let response : Response :=
      ⟨429, [("X-Retry-After", "9"), ("RETRY-after", "\u2003+8388607.999999999\t"),
        ("retry-after", "soon")], []⟩
    response.status = 429 ∧
      response.FirstHeader "retry-after" "\u2003+8388607.999999999\t" ∧
      Blank.Framed "\u2003+8388607.999999999\t".toList "+8388607.999999999".toList ∧
      ∃ delay, request.answer response = .failure (.rateLimited false delay) ∧
        delay.map Duration.nanos = some 8388607999999999 := by
  intro request response
  let n : Binary64.Numeral :=
    ⟨['+'], "8388607".toList, ['.'], "999999999".toList, by decide, .inl rfl,
      List.all_eq_true.mp rfl, List.all_eq_true.mp rfl, by decide⟩
  have hvalue : response.FirstHeader "retry-after" "\u2003+8388607.999999999\t" :=
    Response.header?_eq_some_iff.mp (by decide +kernel)
  have hcore : Blank.Framed "\u2003+8388607.999999999\t".toList "+8388607.999999999".toList :=
    Blank.trim_eq_iff.mp (by decide +kernel)
  obtain ⟨delay, hanswer, -, hread⟩ := request.answer_asks_exactly response rfl
  have htext : "+8388607.999999999".toList = n.text := by decide +kernel
  have hsign : ¬(n.negative = true ∧ n.billionths ≠ 0) := by decide
  have hbillionths : n.billionths = 8388607999999999 := by decide +kernel
  have hexact := (hread _ _ hvalue hcore).1 n htext (by decide +kernel) (by decide)
  rw [if_neg hsign, hbillionths] at hexact
  exact ⟨rfl, hvalue, hcore, delay, hanswer, hexact⟩

end Errand
