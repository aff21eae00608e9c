import Errand.Proofs.Json.Skipping
import Errand.Proofs.Json.Spelling

/-!
Records are read from any object that spells them (`SpelledObject`): its members come in any order,
those that are left out have defaults, and those with unknown names hold any document. What was read
of a record so far depends only on the names that were met (`Members.met`): reading a member adds
its name (`Members.Reads.readMember`), and when no member is wanting the record is complete
(`Members.Reads.complete`). So a record is read and written as its members are
(`Codec.reads_record`).
-/

set_option autoImplicit false

namespace Errand.Json

/-- A member that a record asks for: whether it may be left out, and how its value is spelled. -/
structure Field where
  name : String
  omissible : Prop
  spells : List Char → Prop

/-- An object that spells a record with these members. The names of its members differ from each
other. -/
inductive SpelledObject (fields : List Field) : List Char → Prop
  | intro {gap : List Char} {members : List (String × Member)} (hgap : IsGap gap)
    (hspaced : ∀ member ∈ members, member.2.IsSpaced)
    (hnames : ∀ member ∈ members, SpelledChars member.2.name.document member.1.toList)
    (hdistinct : (members.map Prod.fst).Nodup)
    (hvalues : ∀ member ∈ members,
      (∃ field ∈ fields, field.name = member.1 ∧ field.spells member.2.value.document) ∨
        member.1 ∉ fields.map Field.name ∧ IsDocument member.2.value.document)
    (hpresent : ∀ field ∈ fields, field.name ∈ members.map Prod.fst ∨ field.omissible) :
    SpelledObject fields (objectText gap (members.map Prod.snd))

variable {τ δ σ : Type}

namespace Members

/-- The draft of a record of which the members with these names have been met. -/
def met {τ δ : Type} (names : List String) : Members τ δ → τ → δ
  | nil, () => ()
  | cons name _ _ rest, (a, others) =>
    (if name ∈ names then some a else none, rest.met names others)

/-- The members of a record have different names, and each of them is read and written as it is
spelled. One that may be left out has the value that it then gets. -/
inductive Reads (levels : ℕ) : {τ δ : Type} → Members τ δ → τ → List Field → Prop
  | nil : Reads levels nil () []
  | cons {α τ δ : Type} {name : String} {codec : Codec α} {default : Option α}
    {rest : Members τ δ} {a : α} {others : τ} {fields : List Field} {omissible : Prop}
    {spells : List Char → Prop} (hcodec : codec.Reads levels a spells)
    (hdefault : omissible → default = some a) (hname : name ∉ fields.map Field.name)
    (hrest : Reads levels rest others fields) :
    Reads levels (cons name codec default rest) (a, others) (⟨name, omissible, spells⟩ :: fields)

variable {levels : ℕ} {members : Members τ δ} {t : τ} {fields : List Field}

theorem met_nil (members : Members τ δ) (t : τ) : members.met [] t = members.blank := by
  induction members with
  | nil => rfl
  | cons name codec default rest ih =>
    obtain ⟨a, others⟩ := t
    simp [met, blank, ih]

/-- A name that no member has makes no difference. -/
theorem Reads.met_cons_of_notMem (hreads : members.Reads levels t fields) {key : String}
    (hkey : key ∉ fields.map Field.name) (names : List String) :
    members.met (key :: names) t = members.met names t := by
  induction hreads with
  | nil => rfl
  | @cons _ _ _ name _ _ _ _ _ fields _ _ _ _ _ _ ih =>
    obtain ⟨hne, hmore⟩ := not_or.mp (List.mem_cons.not.mp hkey)
    have hne' : name ≠ key := fun h ↦ hne h.symm
    simp [met, ih hmore, hne']

/-- Reading the value of a member adds its name to those that were met. -/
theorem Reads.readMember (hreads : members.Reads levels t fields) {key : String}
    {names : List String} (hkey : key ∉ names) {text : List Char}
    (htext : (∃ field ∈ fields, field.name = key ∧ field.spells text) ∨
      key ∉ fields.map Field.name ∧ IsDocument text)
    {gap : List Char} (hgap : IsGap gap) {rest : List UInt8} (hrest : EndsDocument rest)
    {depth : ℕ} (hdepth : levels ≤ depth) :
    members.readMember depth (members.met names t) key (bytesOf (gap ++ text) ++ rest) =
      .ok (members.met (key :: names) t, rest) := by
  induction hreads with
  | nil =>
    have hdocument : IsDocument text := by simpa using htext
    simp only [Members.readMember, met, skip_bytesOf hdocument hgap hrest]
    rfl
  | @cons _ _ _ name codec _ more a others fields omissible spells hcodec _ hname hmore ih =>
    by_cases hfirst : key = name
    · -- The value is that of the first member, which was not met before.
      subst hfirst
      have hspelled : spells text := by
        rcases htext with ⟨field, hfield, hfieldName, hspells⟩ | ⟨hunknown, -⟩
        · rcases List.mem_cons.mp hfield with rfl | hlater
          · exact hspells
          · exact absurd (List.mem_map.mpr ⟨field, hlater, hfieldName⟩) hname
        · exact absurd List.mem_cons_self hunknown
      simp only [Members.readMember, met, if_neg hkey, if_true, List.mem_cons_self,
        hcodec.read hspelled hgap hrest hdepth, hmore.met_cons_of_notMem hname]
      rfl
    · have hlater : (∃ field ∈ fields, field.name = key ∧ field.spells text) ∨
          key ∉ fields.map Field.name ∧ IsDocument text := by
        rcases htext with ⟨field, hfield, hfieldName, hspells⟩ | ⟨hunknown, hdocument⟩
        · rcases List.mem_cons.mp hfield with rfl | hlater
          · exact absurd hfieldName.symm hfirst
          · exact Or.inl ⟨field, hlater, hfieldName, hspells⟩
        · exact Or.inr ⟨(not_or.mp (List.mem_cons.not.mp hunknown)).2, hdocument⟩
      have hsame : name ∈ key :: names ↔ name ∈ names := by
        simp [Ne.symm hfirst]
      simp only [Members.readMember, met, if_neg hfirst, ih hlater, hsame]
      rfl

/-- A record is complete when no member is wanting. -/
theorem Reads.complete (hreads : members.Reads levels t fields) {names : List String}
    (hpresent : ∀ field ∈ fields, field.name ∈ names ∨ field.omissible) :
    members.complete (members.met names t) = .ok t := by
  induction hreads with
  | nil => rfl
  | @cons _ _ _ name _ default _ a _ _ _ _ _ hdefault _ _ ih =>
    obtain ⟨hfirst, hmore⟩ := List.forall_mem_cons.mp hpresent
    have hvalue : (if name ∈ names then some a else none).or default = some a := by
      by_cases hmem : name ∈ names
      · rw [if_pos hmem, Option.some_or]
      · rw [if_neg hmem, Option.none_or, hdefault (hfirst.resolve_left hmem)]
    simp only [Members.complete, met, hvalue, bind, Except.bind, ih hmore]

/-- A record is written with the spelled values of its members, under their names. -/
theorem Reads.write (hreads : members.Reads levels t fields) :
    (members.write t).map Prod.fst = fields.map Field.name ∧
      ∀ member ∈ members.write t, ∃ field ∈ fields, field.name = member.1 ∧
        field.spells member.2.write := by
  induction hreads with
  | nil => exact ⟨rfl, nofun⟩
  | cons hcodec _ _ _ ih =>
    obtain ⟨hnames, hvalues⟩ := ih
    refine ⟨congrArg _ hnames, List.forall_mem_cons.mpr ⟨?_, fun member hmember ↦ ?_⟩⟩
    · exact ⟨_, List.mem_cons_self, rfl, hcodec.written⟩
    · obtain ⟨field, hfield, hmatch⟩ := hvalues member hmember
      exact ⟨field, List.mem_cons_of_mem _ hfield, hmatch⟩

theorem Reads.nodup (hreads : members.Reads levels t fields) :
    (fields.map Field.name).Nodup := by
  induction hreads with
  | nil => exact List.nodup_nil
  | cons _ _ hname _ ih => exact List.nodup_cons.mpr ⟨hname, ih⟩

end Members

/-! ### Objects -/

/-- The name of a member is read from its quotes. -/
theorem nextKey_member {name : String} {member : Member} (hspaced : member.IsSpaced)
    (hname : SpelledChars member.name.document name.toList) (rest : List UInt8) :
    nextKey.key (skipSpace (bytesOf member.text ++ rest)) =
      .ok (some name,
        bytesOf member.name.after ++ byte ':' :: (bytesOf member.value.text ++ rest)) := by
  rw [skipSpace_member hspaced, nextKey.key, if_pos rfl, readString_spelled hname]
  rfl

theorem nextKey_comma {gap : List Char} (hgap : IsGap gap) (rest : List UInt8) :
    nextKey false (bytesOf gap ++ byte ',' :: rest) = nextKey.key (skipSpace rest) := by
  rw [nextKey, skipSpace_bytesOf hgap, skipSpace_cons (by decide)]
  rfl

theorem nextKey_first {input more : List UInt8} (hinput : skipSpace input = byte '"' :: more) :
    nextKey true input = nextKey.key (byte '"' :: more) := by
  rw [nextKey, hinput]
  rfl

theorem nextKey_closing (first : Bool) {gap : List Char} (hgap : IsGap gap) (rest : List UInt8) :
    nextKey first (bytesOf gap ++ byte '\x7d' :: rest) = .ok (none, byte '\x7d' :: rest) := by
  rw [nextKey, skipSpace_bytesOf hgap, skipSpace_cons (by decide)]
  rfl

section Reading

variable {levels : ℕ} {members : Members τ δ} {t : τ} {fields : List Field} {depth : ℕ}

/-- A member with a name that may stand in an object for a record with these members. -/
structure Fits (fields : List Field) (member : String × Member) : Prop where
  spaced : member.2.IsSpaced
  name : SpelledChars member.2.name.document member.1.toList
  value : (∃ field ∈ fields, field.name = member.1 ∧ field.spells member.2.value.document) ∨
    member.1 ∉ fields.map Field.name ∧ IsDocument member.2.value.document

/-- One turn of the loop reads one member. -/
theorem readMembers_member (hreads : members.Reads levels t fields) (hdepth : levels ≤ depth)
    {member : String × Member} (hmember : Fits fields member) {names : List String}
    (hname : member.1 ∉ names) {rest : List UInt8} (hrest : EndsDocument rest) {first : Bool}
    {input : List UInt8}
    (hinput : nextKey first input = nextKey.key (skipSpace (bytesOf member.2.text ++ rest)))
    (fuel : ℕ) :
    readMembers (members.readMember depth) (fuel + 1) first (members.met names t) input =
      readMembers (members.readMember depth) fuel false (members.met (member.1 :: names) t)
        (bytesOf member.2.value.after ++ rest) := by
  have hvalue : members.readMember depth (members.met names t) member.1
      (bytesOf member.2.value.text ++ rest) =
        .ok (members.met (member.1 :: names) t, bytesOf member.2.value.after ++ rest) := by
    rw [Item.text, ← List.append_assoc, bytesOf_append, List.append_assoc]
    exact hreads.readMember hname hmember.value hmember.spaced.2.1
      (hrest.gap hmember.spaced.2.2) hdepth
  rw [readMembers, hinput, nextKey_member hmember.spaced hmember.name]
  simp only [bind, Except.bind, readColon_bytesOf hmember.spaced.1.2, hvalue]

/-- Members with a comma before each of them. -/
def followingText (members : List (String × Member)) : List Char :=
  ((members.map Prod.snd).map Member.text).flatMap (',' :: ·)

theorem endsDocument_following (members : List (String × Member)) (rest : List UInt8) :
    EndsDocument (bytesOf (followingText members) ++ byte '\x7d' :: rest) :=
  endsDocument_parts .object _ rest

/-- The members after the first are read up to the closing brace. -/
theorem readMembers_following (hreads : members.Reads levels t fields) (hdepth : levels ≤ depth)
    {more : List (String × Member)} (hmore : ∀ member ∈ more, Fits fields member)
    (hdistinct : (more.map Prod.fst).Nodup) {names : List String}
    (hnew : ∀ name ∈ more.map Prod.fst, name ∉ names) {gap : List Char} (hgap : IsGap gap)
    (rest : List UInt8) {fuel : ℕ} (hfuel : more.length < fuel) :
    readMembers (members.readMember depth) fuel false (members.met names t)
        (bytesOf gap ++ (bytesOf (followingText more) ++ byte '\x7d' :: rest)) =
      .ok (members.met ((more.map Prod.fst).reverse ++ names) t, byte '\x7d' :: rest) := by
  induction more generalizing names gap fuel with
  | nil =>
    obtain ⟨fuel, rfl⟩ := Nat.exists_eq_succ_of_ne_zero (Nat.ne_zero_of_lt hfuel)
    have hclosing := nextKey_closing false hgap rest
    simp only [followingText, List.map_nil, List.flatMap_nil, bytesOf_nil, List.nil_append,
      readMembers, hclosing, bind, Except.bind, List.reverse_nil]
  | cons member more ih =>
    obtain ⟨fuel, rfl⟩ := Nat.exists_eq_succ_of_ne_zero (Nat.ne_zero_of_lt hfuel)
    obtain ⟨hmember, hrest⟩ := List.forall_mem_cons.mp hmore
    obtain ⟨hfirst, hlater⟩ := List.nodup_cons.mp hdistinct
    have hnew' : ∀ name ∈ more.map Prod.fst, name ∉ member.1 :: names := by
      intro name hname hmet
      rcases List.mem_cons.mp hmet with rfl | hmet
      · exact hfirst hname
      · exact hnew name (List.mem_cons_of_mem _ hname) hmet
    have htext : bytesOf (followingText (member :: more)) ++ byte '\x7d' :: rest = byte ',' ::
        (bytesOf member.2.text ++ (bytesOf (followingText more) ++ byte '\x7d' :: rest)) := by
      simp [followingText, bytesOf_cons]
    rw [readMembers_member hreads hdepth hmember (hnew _ List.mem_cons_self)
        (endsDocument_following more rest) (htext ▸ nextKey_comma hgap _),
      ih hrest hlater hnew' hmember.spaced.2.2 (Nat.lt_of_succ_lt_succ hfuel)]
    simp

/-- All members are read up to the closing brace. -/
theorem readMembers_inside (hreads : members.Reads levels t fields) (hdepth : levels ≤ depth)
    {inside : List (String × Member)} (hinside : ∀ member ∈ inside, Fits fields member)
    (hdistinct : (inside.map Prod.fst).Nodup) {gap : List Char} (hgap : IsGap gap)
    (rest : List UInt8) {fuel : ℕ} (hfuel : inside.length < fuel) :
    readMembers (members.readMember depth) fuel true members.blank
        (bytesOf (gap ++ List.intercalate [','] ((inside.map Prod.snd).map Member.text)) ++
          byte '\x7d' :: rest) =
      .ok (members.met (inside.map Prod.fst).reverse t, byte '\x7d' :: rest) := by
  obtain ⟨fuel, rfl⟩ := Nat.exists_eq_succ_of_ne_zero (Nat.ne_zero_of_lt hfuel)
  rw [← members.met_nil t, bytesOf_append, List.append_assoc]
  cases inside with
  | nil =>
    have hclosing := nextKey_closing true hgap rest
    simp only [List.map_nil, List.intercalate_nil, bytesOf_nil, List.nil_append, readMembers,
      hclosing, bind, Except.bind, List.reverse_nil]
  | cons member more =>
    obtain ⟨hmember, hmore⟩ := List.forall_mem_cons.mp hinside
    obtain ⟨hfirst, hlater⟩ := List.nodup_cons.mp hdistinct
    have hnew : ∀ name ∈ more.map Prod.fst, name ∉ [member.1] := by
      rintro name hname hmet
      exact hfirst (List.mem_singleton.mp hmet ▸ hname)
    have htext : bytesOf (List.intercalate [','] (((member :: more).map Prod.snd).map
        Member.text)) ++ byte '\x7d' :: rest =
          bytesOf member.2.text ++ (bytesOf (followingText more) ++ byte '\x7d' :: rest) := by
      rw [List.map_cons, List.map_cons, intercalate_cons, bytesOf_append, List.append_assoc,
        followingText]
    have hinput : nextKey true (bytesOf gap ++ (bytesOf member.2.text ++
        (bytesOf (followingText more) ++ byte '\x7d' :: rest))) =
          nextKey.key (skipSpace (bytesOf member.2.text ++
            (bytesOf (followingText more) ++ byte '\x7d' :: rest))) := by
      have hbegins := skipSpace_member hmember.spaced
        (bytesOf (followingText more) ++ byte '\x7d' :: rest)
      rw [nextKey_first ((skipSpace_bytesOf hgap _).trans hbegins), hbegins]
    rw [htext, readMembers_member hreads hdepth hmember List.not_mem_nil
        (endsDocument_following more rest) hinput,
      readMembers_following hreads hdepth hmore hlater hnew hmember.spaced.2.2 rest
        (Nat.lt_of_succ_lt_succ hfuel)]
    simp

theorem length_le_inside (gap : List Char) (inside : List (String × Member)) :
    inside.length ≤
      (bytesOf (gap ++ List.intercalate [','] ((inside.map Prod.snd).map Member.text))).length := by
  have hpart : ∀ member : Member, 1 ≤ member.text.length := by
    intro member
    simp only [Member.text, List.length_append, List.length_cons]
    omega
  refine le_trans ?_ (length_le_bytesOf _)
  rw [List.length_append]
  cases inside with
  | nil => exact Nat.zero_le _
  | cons member more =>
    have hmore : more.length ≤ (followingText more).length := by
      induction more with
      | nil => exact Nat.zero_le _
      | cons next more ih =>
        simp only [followingText, List.map_cons, List.flatMap_cons, List.length_append,
          List.length_cons] at ih ⊢
        omega
    have hfirst := hpart member.2
    rw [List.map_cons, List.map_cons, intercalate_cons, List.length_append, List.length_cons,
      ← followingText]
    omega

theorem readRecord_spelled (hreads : members.Reads levels t fields) {name : String}
    {text : List Char} (htext : SpelledObject fields text) {gap : List Char} (hgap : IsGap gap)
    (rest : List UInt8) (hdepth : levels + 1 ≤ depth) :
    readRecord name members depth (bytesOf (gap ++ text) ++ rest) = .ok (t, rest) := by
  obtain ⟨depth, rfl⟩ := Nat.exists_eq_succ_of_ne_zero (Nat.ne_zero_of_lt hdepth)
  obtain @⟨inner, inside, hinner, hspaced, hnames, hdistinct, hvalues, hpresent⟩ := htext
  have hinside : ∀ member ∈ inside, Fits fields member := fun member hmember ↦
    ⟨hspaced member hmember, hnames member hmember, hvalues member hmember⟩
  have htoken : bytesOf (objectText inner (inside.map Prod.snd)) = byte '\x7b' ::
      (bytesOf (inner ++ List.intercalate [','] ((inside.map Prod.snd).map Member.text)) ++
        [byte '\x7d']) := by
    rw [objectText, bytesOf_cons (by decide), ← List.append_assoc, bytesOf_append]
    rfl
  have hcomplete : members.complete (members.met (inside.map Prod.fst).reverse t) = .ok t :=
    hreads.complete fun field hfield ↦ (hpresent field hfield).imp_left List.mem_reverse.mpr
  have hclose : closeObject (byte '\x7d' :: rest) = .ok rest := rfl
  rw [readRecord, skipSpace_token hgap (by decide) htoken]
  have hfuel : inside.length < (bytesOf (inner ++ List.intercalate [','] ((inside.map
      Prod.snd).map Member.text)) ++ [byte '\x7d'] ++ rest).length + 1 := by
    have hlength := length_le_inside inner inside
    rw [List.length_append, List.length_append]
    omega
  have hmembers := readMembers_inside hreads (Nat.le_of_succ_le_succ hdepth) hinside hdistinct
    hinner rest hfuel
  simp +decide only [if_true, if_false]
  rw [List.append_assoc, List.singleton_append] at hmembers ⊢
  simp only [hmembers, bind, Except.bind, hcomplete, hclose]

end Reading

/-! ### Writing -/

/-- A member as it is written, without white space. -/
def writtenMember (member : String × Json) : String × Member :=
  (member.1, { name := { document := member.1.toList.flatMap writeChar }
               value := { document := member.2.write } })

theorem write_object (members : List (String × Json)) :
    (Json.object members).write =
      objectText [] ((members.map writtenMember).map Prod.snd) := by
  have hmember : ∀ member : String × Json, (writtenMember member).2.text =
      writeString member.1 ++ ':' :: member.2.write := by
    intro member
    simp [writtenMember, Member.text, Item.text, writeString]
  have hmore : ∀ members : List (String × Json), writeMoreMembers members =
      (((members.map writtenMember).map Prod.snd).map Member.text).flatMap (',' :: ·) ++
        ['\x7d'] := by
    intro members
    induction members with
    | nil => rfl
    | cons member members ih => simp [writeMoreMembers, ih, hmember]
  cases members with
  | nil => rfl
  | cons member members =>
    rw [List.map_cons, List.map_cons, objectText, List.map_cons, intercalate_cons, hmember, write,
      writeMembers, hmore]
    simp

theorem spelledObject_write {levels : ℕ} {members : Members τ δ} {t : τ} {fields : List Field}
    (hreads : members.Reads levels t fields) :
    SpelledObject fields (Json.object (members.write t)).write := by
  obtain ⟨hnames, hvalues⟩ := hreads.write
  have hsame : ((members.write t).map writtenMember).map Prod.fst = fields.map Field.name := by
    rw [List.map_map, ← hnames]
    rfl
  rw [write_object]
  refine .intro nofun ?spaced ?names (hsame ▸ hreads.nodup) ?values ?present
  case spaced =>
    intro member hmember
    obtain ⟨written, -, rfl⟩ := List.mem_map.mp hmember
    exact ⟨⟨nofun, nofun⟩, nofun, nofun⟩
  case names =>
    intro member hmember
    obtain ⟨written, -, rfl⟩ := List.mem_map.mp hmember
    exact spelledChars_write _
  case values =>
    intro member hmember
    obtain ⟨written, hwritten, rfl⟩ := List.mem_map.mp hmember
    exact Or.inl (hvalues written hwritten)
  case present =>
    intro field hfield
    exact Or.inl (hsame ▸ List.mem_map_of_mem hfield)

/-- A record is read from every object that spells it, and is written as one. -/
theorem Codec.reads_record {ρ : Type} {name : String} {members : Members τ δ} {make : τ → ρ}
    {parts : ρ → τ} {levels : ℕ} {r : ρ} {fields : List Field}
    (hreads : members.Reads levels (parts r) fields) (hmake : make (parts r) = r) :
    (Codec.record name members make parts).Reads (levels + 1) r (SpelledObject fields) where
  written := spelledObject_write hreads
  read := by
    intro text gap rest depth htext hgap _ hdepth
    simp only [Codec.record, readRecord_spelled hreads htext hgap rest hdepth, Except.map, hmake]

end Errand.Json
