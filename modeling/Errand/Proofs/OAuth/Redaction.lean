import Errand.OAuth.Token
import Errand.Program.Text
import Errand.Proofs.Chat.Recognition
import Errand.Proofs.Program.Shape

/-!
Client secrets do not show. Credentials show whose they are and nothing else
(`Credentials.label_eq_iff`). So a request that is made alike whatever the secrets are looks the
same for all of them, under whatever adapters (`Request.Entrusted.label_eq`).

Programs are made with such requests and with the operators, and no value in them depends on a
secret (`Program.Entrusted`). An operator looks at the values in a program and at nothing else, so
programs that look alike (`Program.LooksLike`) do so after every operator. They have the same text,
and so have their plans (`secrets_do_not_show`).
-/

set_option autoImplicit false

namespace Errand

open Chat OAuth

variable {V : ValueTypes} {S ι α β : Type}

/-! ### Credentials -/

theorem Chat.Snowflake.label_inj {id id' : Snowflake} : id.label = id'.label ↔ id = id' := by
  unfold Snowflake.label
  rw [String.append_left_inj, String.append_right_inj, Snowflake.text_inj]

theorem OAuth.Credentials.label_eq_iff {c c' : Credentials} :
    c.label = c'.label ↔ c.clientId = c'.clientId := by
  unfold Credentials.label
  rw [String.append_left_inj, String.append_right_inj, Snowflake.label_inj]

theorem OAuth.Grant.label_congr {c c' : Credentials} (hlabel : c.label = c'.label)
    (grant : Grant) : grant.label c = grant.label c' := by
  unfold Grant.label
  rw [hlabel]

/-! ### Requests -/

/-- The secrets of those who ask for tokens. -/
abbrev Secrets (ι : Type) := ι → String

/-- Requests made alike whatever the secrets are. -/
inductive Request.Entrusted : {α : Type} → (Secrets ι → Request α) → Prop
  | plain {α : Type} (request : Request α) : Entrusted fun _ ↦ request
  | token (whose : ι) (clientId : Snowflake) (grant : Grant) :
      Entrusted fun secrets ↦ tokenRequest ⟨clientId, secrets whose⟩ grant
  | mapResponse {α β : Type} {request : Secrets ι → Request α} (hrequest : Entrusted request)
      (f : Secrets ι → α → β) : Entrusted fun secrets ↦ (request secrets).mapResponse (f secrets)
  | filterResponse {α : Type} {request : Secrets ι → Request α} (hrequest : Entrusted request)
      (keep : Secrets ι → α → Bool) :
      Entrusted fun secrets ↦ (request secrets).filterResponse (keep secrets)

namespace Request

theorem mapResponse_label_congr {α' β' : Type} {request : Request α} {request' : Request α'}
    (hlabel : request.label = request'.label) (f : α → β) (f' : α' → β') :
    (request.mapResponse f).label = (request'.mapResponse f').label := by
  unfold mapResponse
  rw [hlabel]

theorem filterResponse_label_congr {request request' : Request α}
    (hlabel : request.label = request'.label) (keep keep' : α → Bool) :
    (request.filterResponse keep).label = (request'.filterResponse keep').label := by
  unfold filterResponse
  rw [hlabel]

theorem Entrusted.label_eq {request : Secrets ι → Request α} (hrequest : Entrusted request)
    (secrets secrets' : Secrets ι) : (request secrets).label = (request secrets').label := by
  induction hrequest with
  | plain request => rfl
  | token whose clientId grant => exact grant.label_congr (Credentials.label_eq_iff.mpr rfl)
  | mapResponse _ f ih => exact mapResponse_label_congr ih _ _
  | filterResponse _ keep ih => exact filterResponse_label_congr ih _ _

end Request

/-! ### Programs that look alike -/

theorem Plan.texts_eq (parts : List (Plan V S)) : Plan.texts parts = parts.map Plan.text := by
  induction parts with
  | nil => rfl
  | cons p parts ih => simp [Plan.texts, ih]

namespace Program

theorem texts_eq (valueText : α → String) (parts : List (Program V α S)) :
    texts valueText parts = parts.map (text valueText) := by
  induction parts with
  | nil => rfl
  | cons p parts ih => simp [texts, ih]

/-- The plan of a program has the text of the erased program. -/
theorem text_erase [Carried V α] (p : Program V α S) :
    p.erase.text = p.erased.text Payload.text := by
  induction p with
  | concat parts ih =>
    have hparts : parts.map (Plan.text ∘ erase) = parts.map (text Payload.text ∘ erased) :=
      List.map_congr_left ih
    simp only [erase, erased, text, Plan.text, Plan.texts_eq, texts_eq, eraseParts_eq,
      erasedParts_eq, List.map_map, hparts]
  | _ => rfl

/-- The same program but for what does not show: how requests are carried out and continued. -/
inductive LooksLike : Program V α S → Program V α S → Prop
  | done (a : α) : LooksLike (.done a) (.done a)
  | empty : LooksLike .empty .empty
  | submit {request request' : Request α} (hlabel : request.label = request'.label) :
      LooksLike (.submit request) (.submit request')
  | sequence {first first' : Plan V S} {steps steps' : List S} (hfirst : first.text = first'.text)
      (hsteps : steps.length = steps'.length) :
      LooksLike (.sequence first steps) (.sequence first' steps')
  /-- There are as many parts, and those in the same place look alike. -/
  | concat {A : Type} (places : List A) {part part' : A → Program V α S}
      (hparts : ∀ place ∈ places, LooksLike (part place) (part' place)) :
      LooksLike (.concat (places.map part)) (.concat (places.map part'))

namespace LooksLike

variable {p p' : Program V α S}

theorem refl (p : Program V α S) : LooksLike p p := by
  induction p with
  | done a => exact .done a
  | empty => exact .empty
  | submit request => exact .submit rfl
  | sequence first steps => exact .sequence rfl rfl
  | concat parts ih =>
    have hparts := LooksLike.concat parts ih
    rwa [List.map_id'] at hparts

theorem ofParts {A : Type} (places : List A) {part part' : A → Program V α S}
    (hparts : ∀ place ∈ places, LooksLike (part place) (part' place)) :
    LooksLike (.ofParts (places.map part)) (.ofParts (places.map part')) := by
  rcases places with _ | ⟨place, _ | ⟨next, places⟩⟩
  · exact .empty
  · exact hparts place (List.mem_singleton_self _)
  · exact .concat (place :: next :: places) hparts

theorem text_eq (hp : LooksLike p p') (valueText : α → String) :
    p.text valueText = p'.text valueText := by
  induction hp with
  | done a => rfl
  | empty => rfl
  | submit hlabel => simp only [text, hlabel]
  | sequence hfirst hsteps => simp only [text, hfirst, hsteps]
  | @concat A places part part' _ ih =>
    have hparts : places.map (text valueText ∘ part) = places.map (text valueText ∘ part') :=
      List.map_congr_left ih
    simp only [text, texts_eq, List.map_map, hparts]

section Operators

variable [Closures V S] [Carried V α] [Carried V β]

omit [Closures V S] [Carried V α] in
/-- What holds of the values in a concatenation holds of those in its parts. -/
theorem forall_holds_of_concat {A : Type} {places : List A} {part : A → Program V α S}
    {such : α → Prop} (hsuch : ∀ a, (Program.concat (places.map part)).Holds a → such a) {place : A}
    (hplace : place ∈ places) : ∀ a, (part place).Holds a → such a :=
  fun a ha ↦ hsuch a (.concat (List.mem_map_of_mem hplace) ha)

theorem map (hp : LooksLike p p') {f f' : α → β} (hf : ∀ a, p.Holds a → f a = f' a) :
    LooksLike (p.map f) (p'.map f') := by
  induction hp with
  | done a =>
    show LooksLike (.done (f a)) (.done (f' a))
    rw [hf a (.done a)]
    exact .done (f' a)
  | empty => exact .empty
  | submit hlabel => exact .submit (Request.mapResponse_label_congr hlabel f f')
  | sequence hfirst hsteps => exact .sequence hfirst (congrArg Nat.succ hsteps)
  | concat places hparts ih =>
    simp only [Program.map, mapParts_eq, List.map_map]
    exact .concat places fun place hplace ↦ ih place hplace (forall_holds_of_concat hf hplace)

theorem filter (hp : LooksLike p p') {keep keep' : α → Bool}
    (hkeep : ∀ a, p.Holds a → keep a = keep' a) :
    LooksLike (p.filter keep) (p'.filter keep') := by
  induction hp with
  | done a =>
    show LooksLike (if keep a then .done a else .empty) (if keep' a then .done a else .empty)
    rw [hkeep a (.done a)]
    exact refl _
  | empty => exact .empty
  | submit hlabel => exact .submit (Request.filterResponse_label_congr hlabel keep keep')
  | sequence hfirst hsteps => exact .sequence hfirst (congrArg Nat.succ hsteps)
  | concat places hparts ih =>
    simp only [Program.filter, filterParts_eq, List.map_map]
    exact .concat places fun place hplace ↦ ih place hplace (forall_holds_of_concat hkeep hplace)

theorem flatMap (hp : LooksLike p p') {f f' : α → Program V β S}
    (hf : ∀ a, p.Holds a → LooksLike (f a) (f' a)) :
    LooksLike (p.flatMap f) (p'.flatMap f') := by
  induction hp with
  | done a => exact hf a (.done a)
  | empty => exact .empty
  | submit hlabel =>
    refine .sequence ?_ rfl
    unfold Plan.text
    rw [Request.mapResponse_label_congr hlabel]
  | sequence hfirst hsteps => exact .sequence hfirst (congrArg Nat.succ hsteps)
  | concat places hparts ih =>
    simp only [Program.flatMap, flatMapParts_eq, List.map_map]
    exact .concat places fun place hplace ↦ ih place hplace (forall_holds_of_concat hf hplace)

omit [Closures V S] in
theorem erased (hp : LooksLike p p') : LooksLike p.erased p'.erased := by
  induction hp with
  | done a => exact .done _
  | empty => exact .empty
  | submit hlabel => exact .submit (Request.mapResponse_label_congr hlabel _ _)
  | sequence hfirst hsteps => exact .sequence hfirst hsteps
  | concat places hparts ih =>
    simp only [Program.erased, erasedParts_eq, List.map_map]
    exact .concat places ih

end Operators

end LooksLike

/-! ### Programs with secrets in their requests -/

section Making

variable [Closures V S]

/-- Programs made alike whatever the secrets are, the values in them being the same. -/
inductive Entrusted : (α : Type) → [Carried V α] → (Secrets ι → Program V α S) → Prop
  | plain {α : Type} [Carried V α] (p : Program V α S) : Entrusted α fun _ ↦ p
  | submit {α : Type} [Carried V α] {request : Secrets ι → Request α}
      (hrequest : Request.Entrusted request) : Entrusted α fun secrets ↦ .submit (request secrets)
  | concat {α : Type} [Carried V α] {parts : List (Secrets ι → Program V α S)}
      (hparts : ∀ p ∈ parts, Entrusted α p) :
      Entrusted α fun secrets ↦ .concat (parts.map (· secrets))
  | ofParts {α : Type} [Carried V α] {parts : List (Secrets ι → Program V α S)}
      (hparts : ∀ p ∈ parts, Entrusted α p) :
      Entrusted α fun secrets ↦ .ofParts (parts.map (· secrets))
  | map {α β : Type} [Carried V α] [Carried V β] {p : Secrets ι → Program V α S}
      (hp : Entrusted α p) {f : Secrets ι → α → β}
      (hf : ∀ secrets secrets' a, (p secrets).Holds a → f secrets a = f secrets' a) :
      Entrusted β fun secrets ↦ (p secrets).map (f secrets)
  | filter {α : Type} [Carried V α] {p : Secrets ι → Program V α S}
      (hp : Entrusted α p) {keep : Secrets ι → α → Bool}
      (hkeep : ∀ secrets secrets' a, (p secrets).Holds a → keep secrets a = keep secrets' a) :
      Entrusted α fun secrets ↦ (p secrets).filter (keep secrets)
  | flatMap {α β : Type} [Carried V α] [Carried V β] {p : Secrets ι → Program V α S}
      (hp : Entrusted α p) {f : Secrets ι → α → Program V β S}
      (hf : ∀ secrets a, (p secrets).Holds a → Entrusted β fun secrets ↦ f secrets a) :
      Entrusted β fun secrets ↦ (p secrets).flatMap (f secrets)
  | erased {α : Type} [Carried V α] {p : Secrets ι → Program V α S} (hp : Entrusted α p) :
      Entrusted (Payload V) fun secrets ↦ (p secrets).erased

/-- Whatever the secrets are, the program looks the same. -/
theorem Entrusted.looksLike [Carried V α] {p : Secrets ι → Program V α S} (hp : Entrusted α p)
    (secrets secrets' : Secrets ι) : (p secrets).LooksLike (p secrets') := by
  induction hp with
  | plain p => exact .refl p
  | submit hrequest => exact .submit (hrequest.label_eq secrets secrets')
  | concat _ ih => exact .concat _ ih
  | ofParts _ ih => exact .ofParts _ ih
  | map _ hf ih => exact ih.map (hf secrets secrets')
  | filter _ hkeep ih => exact ih.filter (hkeep secrets secrets')
  | flatMap _ _ ih ihheld => exact ih.flatMap (ihheld secrets)
  | erased _ ih => exact ih.erased

end Making

end Program

namespace OAuth

/-- Client secrets do not show. However a program is made, if no value in it depends on a secret,
then the program and its plan have the same text whatever the secrets in its requests for tokens
are, and so has every such request under whatever adapters. Credentials have the same text if and
only if they are for the same client. -/
theorem secrets_do_not_show (V : ValueTypes) (S ι : Type) [Closures V S] :
    (∀ (α : Type) [Carried V α] (p : Secrets ι → Program V α S), Program.Entrusted α p →
        ∀ secrets secrets',
          (∀ valueText, (p secrets).text valueText = (p secrets').text valueText) ∧
            (p secrets).erase.text = (p secrets').erase.text) ∧
      (∀ (α : Type) (request : Secrets ι → Request α), Request.Entrusted request →
        ∀ secrets secrets', (request secrets).label = (request secrets').label) ∧
      ∀ c c' : Credentials, c.label = c'.label ↔ c.clientId = c'.clientId := by
  refine ⟨?_, fun _ _ hrequest ↦ hrequest.label_eq, fun _ _ ↦ Credentials.label_eq_iff⟩
  intro α _ p hp secrets secrets'
  have halike := hp.looksLike secrets secrets'
  constructor
  · exact halike.text_eq
  · rw [Program.text_erase, Program.text_erase]
    exact halike.erased.text_eq Payload.text

/-- Two applications, of which the second goes on with the token of the first. -/
theorem secrets_do_not_show_of_two :
    let request (clientId : Snowflake) (secret : String) (grant : Grant) : Request String :=
      (tokenRequest ⟨clientId, secret⟩ grant).mapResponse AccessToken.accessToken
    let parts : List (Secrets Bool → Program values String) :=
      [fun secrets ↦ .submit (request ⟨7⟩ (secrets true) (.alone [])),
        fun secrets ↦ (Program.submit (request ⟨7⟩ (secrets true) (.refresh "a"))).flatMap
          fun token ↦ .submit (request ⟨8⟩ (secrets false) (.refresh token))]
    let program (secrets : Secrets Bool) : Program values String :=
      .ofParts (parts.map (· secrets))
    (program fun _ ↦ "b").text id = (program fun whose ↦ toString whose).text id := by
  intro request parts program
  have hrequest (whose : Bool) (clientId : Snowflake) (grant : Grant) :
      Request.Entrusted fun secrets ↦ request clientId (secrets whose) grant :=
    .mapResponse (.token whose clientId grant) fun _ ↦ AccessToken.accessToken
  have hparts : ∀ p ∈ parts, Program.Entrusted String p := by
    refine List.forall_mem_cons.mpr ⟨.submit (hrequest true _ _), List.forall_mem_singleton.mpr ?_⟩
    exact .flatMap (.submit (hrequest true _ _)) fun _ token _ ↦ .submit (hrequest false _ _)
  have hsame := (secrets_do_not_show values (Step values) Bool).1 String program (.ofParts hparts)
    (fun _ ↦ "b") fun whose ↦ toString whose
  exact hsame.1 id

end OAuth

end Errand
