import Errand.OAuth.Authorization
import Errand.Proofs.Text.Form
import Errand.Url.Reading

/-!
The address of an authorization says what was asked for, however it was set up. Whatever the steps
were, the scopes are those asked for, each where it was first mentioned, and any other parameter is
as it was last set (`setAll_eq`). The address is a URL whose query is read as it stands
(`read_url`), and this query is a form that gives the parameters back (`address_faithful`).
-/

set_option autoImplicit false

namespace Errand

/-! ### Queries in URLs -/

namespace Url

deriving instance DecidableEq for Authority

/-- A character that is read as it stands in the query of a URL with this kind of scheme. -/
def IsPlain (kind : Kind) (c : Char) : Prop :=
  0x20 < c.toNat ∧ c.toNat < 0x80 ∧ c ≠ '#' ∧ escapesInQuery kind c = false

/-- What is neither a blank nor a control stays. -/
theorem cleaned_of_lt {text : String} (htext : ∀ c ∈ text.toList, 0x20 < c.toNat) :
    cleaned text = text.toList := by
  have hedge : ∀ t : List Char, (∀ c ∈ t, 0x20 < c.toNat) →
      t.dropWhile (fun c ↦ decide (c.toNat ≤ 0x20)) = t := by
    intro t ht
    cases t with
    | nil => rfl
    | cons c t =>
      have hc := ht c List.mem_cons_self
      exact List.dropWhile_cons_of_neg (by simpa using hc)
  have hkept : ∀ c ∈ text.toList, (c ≠ '\t' && c ≠ '\n' && c ≠ '\r') = true := by
    intro c hc
    have hne : ∀ d : Char, d.toNat ≤ 0x20 → c ≠ d := by
      rintro d hd rfl
      exact absurd (htext c hc) (Nat.not_lt_of_le hd)
    simp [hne '\t' (by decide), hne '\n' (by decide), hne '\r' (by decide)]
  simp only [cleaned]
  rw [hedge _ htext, hedge _ fun c hc ↦ htext c (List.mem_reverse.mp hc), List.reverse_reverse,
    List.filter_eq_self.mpr hkept]

theorem escaped_of_isPlain {kind : Kind} {query : List Char}
    (hquery : ∀ c ∈ query, IsPlain kind c) :
    escaped (escapesInQuery kind) query = String.ofList query := by
  have hchars : Percent.encode (escapesInQuery kind) query = query := by
    induction query with
    | nil => rfl
    | cons c query ih =>
      obtain ⟨⟨-, hascii, -, hplain⟩, hmore⟩ := List.forall_mem_cons.mp hquery
      have hkept : (c.toNat < 0x80 && !escapesInQuery kind c) = true := by simp [hascii, hplain]
      rw [Percent.encode, List.flatMap_cons, if_pos hkept, List.singleton_append]
      exact congrArg (c :: ·) (ih hmore)
  rw [escaped, hchars]

/-- A plain query is what follows the first question mark. -/
theorem splitTail_query {kind : Kind} {front query : List Char} (hmark : ∀ c ∈ front, c ≠ '?')
    (hhash : ∀ c ∈ front, c ≠ '#') (hquery : ∀ c ∈ query, IsPlain kind c) :
    splitTail kind (front ++ '?' :: query) = (front, some (String.ofList query), none) := by
  have hall : ∀ c ∈ front ++ '?' :: query, decide (c ≠ '#') = true := by
    intro c hc
    rw [List.mem_append, List.mem_cons] at hc
    rcases hc with hfront | rfl | hin
    · exact decide_eq_true (hhash c hfront)
    · decide
    · exact decide_eq_true (hquery c hin).2.2.1
  have hbefore : ∀ c ∈ front, decide (c ≠ '?') = true := fun c hc ↦ decide_eq_true (hmark c hc)
  have htake : (front ++ '?' :: query).takeWhile (· ≠ '#') = front ++ '?' :: query :=
    List.takeWhile_eq_self_iff.mpr hall
  have hdrop : (front ++ '?' :: query).dropWhile (· ≠ '#') = [] :=
    List.dropWhile_eq_nil_iff.mpr hall
  simp only [splitTail, htake, hdrop]
  rw [List.takeWhile_append_of_pos hbefore, List.dropWhile_append_of_pos hbefore]
  simp [escaped_of_isPlain hquery]

end Url

namespace OAuth.Authorization

open Chat (Snowflake)

/-! ### Steps -/

/-- What a step is about. -/
inductive Parameter where
  | scope
  | state
  | redirectUri
  | prompt
  deriving DecidableEq

namespace Setting

def parameter : Setting → Parameter
  | scope _ | scopes _ => .scope
  | state _ => .state
  | redirectUri _ => .redirectUri
  | prompt _ => .prompt

/-- The scopes that a step asks for. -/
def asked : Setting → List Scope
  | scope s => [s]
  | scopes many => many
  | _ => []

def state? : Setting → Option String
  | state text => some text
  | _ => none

def redirectUri? : Setting → Option Url
  | redirectUri url => some url
  | _ => none

def prompt? : Setting → Option Prompt
  | prompt p => some p
  | _ => none

end Setting

/-- An address after these steps, with each parameter as they leave it. -/
def told (clientId : Snowflake) (settings : List Setting) : Authorization where
  clientId := clientId
  scopes := (settings.flatMap Setting.asked).eraseDups
  state := (settings.filterMap Setting.state?).getLast?
  redirectUri := (settings.filterMap Setting.redirectUri?).getLast?
  prompt := (settings.filterMap Setting.prompt?).getLast?

/-- A scope is asked for where it was first mentioned. -/
theorem scope_of_asked {a : Authorization} {asked : List Scope} (ha : a.scopes = asked.eraseDups)
    (s : Scope) : a.scope s = { a with scopes := (asked ++ [s]).eraseDups } := by
  have hmem : a.scopes.contains s = true ↔ s ∈ asked := by simp [ha]
  rw [scope, List.eraseDups_append, List.removeAll]
  by_cases hs : s ∈ asked
  · rw [if_pos (hmem.mpr hs)]
    simp [hs, ← ha]
  · rw [if_neg (hmem.not.mpr hs)]
    simp [hs, ← ha, List.eraseDups_cons]

theorem withScopes_of_asked {a : Authorization} {asked : List Scope}
    (ha : a.scopes = asked.eraseDups) (scopes : List Scope) :
    a.withScopes scopes = { a with scopes := (asked ++ scopes).eraseDups } := by
  induction scopes generalizing a asked with
  | nil => rw [List.append_nil, ← ha, withScopes, List.foldl_nil]
  | cons s scopes ih =>
    have hfirst := scope_of_asked ha s
    have hasked : (a.scope s).scopes = (asked ++ [s]).eraseDups := by rw [hfirst]
    have hmore := ih hasked
    rw [withScopes] at hmore ⊢
    rw [List.foldl_cons, hmore, hfirst, List.append_assoc, List.singleton_append]

theorem eraseDups_eq_nil {asked : List Scope} : asked.eraseDups = [] ↔ asked = [] := by
  cases asked <;> simp [List.eraseDups_cons]

/-- Every parameter is as the steps leave it. -/
theorem setAll_eq (clientId : Snowflake) (settings : List Setting) :
    setAll settings { clientId } = told clientId settings := by
  induction settings using List.reverseRecOn with
  | nil => rfl
  | append_singleton settings setting ih =>
    have hscopes : (told clientId settings).scopes =
        (settings.flatMap Setting.asked).eraseDups := rfl
    rw [setAll] at ih ⊢
    rw [List.foldl_append, ih, List.foldl_cons, List.foldl_nil]
    cases setting with
    | scope s =>
      rw [set, scope_of_asked hscopes]
      simp [told, Setting.asked, Setting.state?, Setting.redirectUri?, Setting.prompt?]
    | scopes scopes =>
      rw [set, withScopes_of_asked hscopes]
      simp [told, Setting.asked, Setting.state?, Setting.redirectUri?, Setting.prompt?]
    | state text =>
      simp [set, told, Setting.asked, Setting.state?, Setting.redirectUri?, Setting.prompt?]
    | redirectUri url =>
      simp [set, told, Setting.asked, Setting.state?, Setting.redirectUri?, Setting.prompt?]
    | prompt p =>
      simp [set, told, Setting.asked, Setting.state?, Setting.redirectUri?, Setting.prompt?]

/-- Steps about different parameters may change places. -/
theorem told_swap (clientId : Snowflake) (before after : List Setting) {s t : Setting}
    (hparameter : s.parameter ≠ t.parameter) :
    told clientId (before ++ s :: t :: after) = told clientId (before ++ t :: s :: after) := by
  have hasked : s.asked ++ t.asked = t.asked ++ s.asked := by
    cases s <;> cases t <;> first | exact absurd rfl hparameter | simp [Setting.asked]
  have hstate : [s, t].filterMap Setting.state? = [t, s].filterMap Setting.state? := by
    cases s <;> cases t <;> first | exact absurd rfl hparameter | rfl
  have hredirect :
      [s, t].filterMap Setting.redirectUri? = [t, s].filterMap Setting.redirectUri? := by
    cases s <;> cases t <;> first | exact absurd rfl hparameter | rfl
  have hprompt : [s, t].filterMap Setting.prompt? = [t, s].filterMap Setting.prompt? := by
    cases s <;> cases t <;> first | exact absurd rfl hparameter | rfl
  have hcut : ∀ s t : Setting, before ++ s :: t :: after = before ++ [s, t] ++ after := by simp
  simp only [told, hcut, List.flatMap_append, List.filterMap_append, hstate, hredirect, hprompt]
  simp [hasked]

/-- A step that only asks for scopes that were asked for changes nothing. -/
theorem told_again (clientId : Snowflake) {before : List Setting} (after : List Setting)
    {s : Setting} (hscope : s.parameter = .scope)
    (hasked : s.asked ⊆ before.flatMap Setting.asked) :
    told clientId (before ++ s :: after) = told clientId (before ++ after) := by
  have hnone : s.asked.removeAll (before.flatMap Setting.asked) = [] := by
    refine List.filter_eq_nil_iff.mpr fun scope hscope ↦ ?_
    simpa using List.mem_flatMap.mp (hasked hscope)
  have hscopes : ((before ++ s :: after).flatMap Setting.asked).eraseDups =
      ((before ++ after).flatMap Setting.asked).eraseDups := by
    rw [List.flatMap_append, List.flatMap_cons, List.flatMap_append, List.eraseDups_append,
      List.eraseDups_append, List.removeAll, List.filter_append, ← List.removeAll, hnone,
      List.nil_append, ← List.removeAll]
  have hothers : s.state? = none ∧ s.redirectUri? = none ∧ s.prompt? = none := by
    cases s <;> simp_all [Setting.parameter, Setting.state?, Setting.redirectUri?, Setting.prompt?]
  simp only [told, hscopes]
  simp [hothers]

/-! ### Addresses -/

theorem isPlain_of_written : ∀ n < 128,
    Form.isWritten (Char.ofNat n) = true ∨ Char.ofNat n = '=' ∨ Char.ofNat n = '&' →
      0x20 < n ∧ Char.ofNat n ≠ '#' ∧ Url.escapesInQuery (.special 443) (Char.ofNat n) = false := by
  decide +kernel

theorem isPlain_query (a : Authorization) : ∀ c ∈ a.query.toList, Url.IsPlain (.special 443) c := by
  intro c hc
  have hform : Form.isWritten c = true ∨ c = '=' ∨ c = '&' :=
    Form.mem_encode (by simpa [query] using hc)
  have hascii : c.toNat < 0x80 := by
    rcases hform with hwritten | rfl | rfl
    · exact Form.lt_of_isWritten hwritten
    · decide
    · decide
  rw [← Char.ofNat_toNat c] at hform
  obtain ⟨hblank, hhash, hescape⟩ := isPlain_of_written c.toNat hascii hform
  rw [Char.ofNat_toNat] at hhash hescape
  exact ⟨hblank, hascii, hhash, hescape⟩

/-- What stands between the scheme and the query. -/
def endpointTail : String := "//discord.com/oauth2/authorize"

theorem url_toList (a : Authorization) :
    a.url.toList = "https:".toList ++ (endpointTail.toList ++ '?' :: a.query.toList) := by
  simp [url, endpoint, endpointTail]

theorem readAuthority_endpoint :
    Url.readAuthority (.special 443)
        (endpointTail.toList.dropWhile (Url.Kind.special 443).isSlash) =
      .ok (⟨"", "", .name "discord.com", none⟩, "/oauth2/authorize".toList) := by
  decide +kernel

theorem readPath_endpoint : Url.readPath (.special 443) "/oauth2/authorize".toList =
    .segments ["oauth2", "authorize"] := by
  decide +kernel

/-- An address is a URL, whose query is read as it was written. -/
theorem read_url (a : Authorization) :
    Url.read a.url = .ok
      { scheme := "https", username := "", password := "", host := some (.name "discord.com")
        port := none, path := .segments ["oauth2", "authorize"], query := some a.query
        fragment := none } := by
  have hquery := isPlain_query a
  have hclean : Url.cleaned a.url = a.url.toList := by
    refine Url.cleaned_of_lt fun c hc ↦ ?_
    rw [url_toList, List.mem_append, List.mem_append, List.mem_cons] at hc
    have hfixed : ∀ c ∈ "https:".toList ++ endpointTail.toList, 0x20 < c.toNat := by
      simp [endpointTail]
    rcases hc with hscheme | hfront | rfl | hin
    · exact hfixed c (List.mem_append_left _ hscheme)
    · exact hfixed c (List.mem_append_right _ hfront)
    · decide
    · exact (hquery c hin).1
  have hscheme : Url.scheme? a.url.toList =
      some ("https", endpointTail.toList ++ '?' :: a.query.toList) := by
    rw [url_toList]
    simp [Url.scheme?, Url.isSchemeChar]
  have htail : Url.splitTail (.special 443) (endpointTail.toList ++ '?' :: a.query.toList) =
      (endpointTail.toList, some a.query, none) := by
    rw [Url.splitTail_query (by simp [endpointTail]) (by simp [endpointTail]) hquery,
      String.ofList_toList]
  have hkind : Url.Kind.ofScheme "https" = .special 443 := by decide
  rw [Url.read, hclean, hscheme]
  simp only [Url.readAfterScheme, hkind, htail, readAuthority_endpoint]
  rw [← readPath_endpoint]
  rfl

/-- The address of an authorization, set up by any steps in any order, is a URL whose query is a
form that gives back, in this order, the kind of response, the application, the scopes asked for,
each where it was first mentioned, and whatever else was set, as it was last set. Steps about
different parameters may change places, and asking again for scopes changes nothing. -/
theorem address_faithful (clientId : Snowflake) (settings : List Setting) :
    let address (settings : List Setting) : Authorization := setAll settings { clientId }
    let asked (settings : List Setting) := settings.flatMap Setting.asked
    let last (name : String) (values : List String) :=
      (values.getLast?.map fun value ↦ (name, value)).toList
    (∃ url query, Url.read (address settings).url = .ok url ∧ url.text = (address settings).url ∧
      url.query = some query ∧ Form.decode query.toList =
        [("response_type", "code"), ("client_id", clientId.text)] ++
          (if asked settings = [] then []
            else [("scope", Scope.join (asked settings).eraseDups)]) ++
          last "state" (settings.filterMap Setting.state?) ++
          last "redirect_uri" ((settings.filterMap Setting.redirectUri?).map Url.text) ++
          last "prompt" ((settings.filterMap Setting.prompt?).map Prompt.token)) ∧
      (∀ (before after : List Setting) (s t : Setting), s.parameter ≠ t.parameter →
        address (before ++ s :: t :: after) = address (before ++ t :: s :: after)) ∧
      ∀ (before after : List Setting) (s : Setting), s.parameter = .scope →
        s.asked ⊆ asked before → address (before ++ s :: after) = address (before ++ after) := by
  intro address asked last
  have haddress : ∀ settings, address settings = told clientId settings := setAll_eq clientId
  refine ⟨⟨_, _, read_url _, ?text, rfl, ?form⟩, ?swap, ?again⟩
  case text =>
    simp [url, endpoint, Url.text, Url.authorityText, Url.userText, UrlPath.text, Host.text,
      ← String.append_assoc]
  case form =>
    rw [query, String.toList_ofList, Form.decode_encode, haddress]
    simp only [pairs, told, List.isEmpty_iff, eraseDups_eq_nil, List.getLast?_map, Option.map_map,
      Function.comp_def, last, asked]
  case swap =>
    intro before after s t hparameter
    rw [haddress, haddress, told_swap clientId before after hparameter]
  case again =>
    intro before after s hscope hasked
    rw [haddress, haddress, told_again clientId after hscope hasked]

/-- A state that reads like a query is one value, and a scope asked for twice is listed once. -/
theorem address_faithful_of_nested_query :
    let state := Setting.state "a=b&c+d%20é\n"
    let address (settings : List Setting) : Authorization := setAll settings { clientId := ⟨7⟩ }
    (∃ url query, Url.read (address [.scope .bot, state, .scopes [.identify, .bot]]).url = .ok url ∧
      url.query = some query ∧ Form.decode query.toList =
        [("response_type", "code"), ("client_id", "7"), ("scope", "bot identify"),
          ("state", "a=b&c+d%20é\n")]) ∧
      address [.scope .bot, state] = address [state, .scope .bot] ∧
      address [.scope .bot, state, .scopes [.bot, .bot]] = address [.scope .bot, state] := by
  intro state address
  have hparameter : (Setting.scope .bot).parameter ≠ state.parameter := by decide
  have hasked :
      (Setting.scopes [.bot, .bot]).asked ⊆ [.scope .bot, state].flatMap Setting.asked := by
    decide
  obtain ⟨⟨url, query, hread, -, hquery, hform⟩, -, -⟩ :=
    address_faithful ⟨7⟩ [.scope .bot, state, .scopes [.identify, .bot]]
  obtain ⟨-, hswap, hagain⟩ := address_faithful ⟨7⟩ []
  exact ⟨⟨url, query, hread, hquery, hform.trans (by decide +kernel)⟩,
    hswap [] [] _ _ hparameter, hagain [.scope .bot, state] [] _ rfl hasked⟩

end OAuth.Authorization

end Errand
