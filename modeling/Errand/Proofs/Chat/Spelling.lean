import Errand.Chat.Model
import Errand.Proofs.Json.Records

/-!
The resources of the chat service are read from whatever spells them. An identifier is spelled as
the string of its decimal or as the plain number (`Snowflake.Spelled`); a resource is spelled by any
object in which its members have their spellings, in any order and among others, and what is absent
or false may be left out. Every resource is read from each of its spellings, and is written in one
of them (`resources_faithful`).
-/

set_option autoImplicit false

namespace Errand.Json

/-- Documents that are strings and numbers are read as they are spelled. -/
theorem readValue_string {s : String} {text : List Char} (htext : SpelledString s text)
    {gap : List Char} (hgap : IsGap gap) (depth : ℕ) (rest : List UInt8) :
    readValue depth (bytesOf (gap ++ text) ++ rest) = .ok (.string s, rest) := by
  obtain ⟨more, htoken, hread⟩ := htext.exists_readString
  rw [readValue.eq_def]
  simp +decide only [skipSpace_token hgap (by decide) htoken, if_true, if_false, hread rest]
  rfl

theorem readValue_natural {n : ℕ} (hn : n < Nat.pow 2 64) {text : List Char}
    (htext : SpelledNatural n text) {gap : List Char} (hgap : IsGap gap) (depth : ℕ)
    {rest : List UInt8} (hrest : EndsDocument rest) :
    readValue depth (bytesOf (gap ++ text) ++ rest) = .ok (.nat n, rest) := by
  obtain ⟨b, more, htoken, hdigit, hread⟩ := htext.exists_readNumber hn
  have hstarts : startsNumber b = true := by simp [startsNumber, hdigit]
  rw [readValue.eq_def]
  simp only [skipSpace_token hgap (isSpace_of_isDigit hdigit) htoken,
    ne_of_isDigit hdigit (show isDigit (byte 'n') = false by decide),
    ne_of_isDigit hdigit (show isDigit (byte 't') = false by decide),
    ne_of_isDigit hdigit (show isDigit (byte 'f') = false by decide), hstarts, if_true, if_false,
    hread rest hrest]
  rfl

end Errand.Json

namespace Errand.Chat

open Json

/-! ### Spellings -/

def Snowflake.Spelled (id : Snowflake) (text : List Char) : Prop :=
  SpelledString id.text text ∨ SpelledNatural id.value.toNat text

def User.fields (u : User) : List Field :=
  [⟨"id", False, u.id.Spelled⟩,
    ⟨"username", False, SpelledString u.username⟩,
    ⟨"discriminator", False, SpelledString u.discriminator⟩,
    ⟨"avatar", u.avatar = none, SpelledOption SpelledString u.avatar⟩,
    ⟨"bot", u.bot = false, SpelledFlag u.bot⟩]

def User.Spelled (u : User) : List Char → Prop := SpelledObject u.fields

def Channel.fields (c : Channel) : List Field :=
  [⟨"id", False, c.id.Spelled⟩,
    ⟨"type", False, SpelledNatural c.kind.toNat⟩,
    ⟨"guild_id", c.guildId = none, SpelledOption Snowflake.Spelled c.guildId⟩,
    ⟨"name", c.name = none, SpelledOption SpelledString c.name⟩,
    ⟨"topic", c.topic = none, SpelledOption SpelledString c.topic⟩]

def Channel.Spelled (c : Channel) : List Char → Prop := SpelledObject c.fields

def Guild.fields (g : Guild) : List Field :=
  [⟨"id", False, g.id.Spelled⟩,
    ⟨"name", False, SpelledString g.name⟩,
    ⟨"icon", g.icon = none, SpelledOption SpelledString g.icon⟩,
    ⟨"splash", g.splash = none, SpelledOption SpelledString g.splash⟩,
    ⟨"owner_id", False, g.ownerId.Spelled⟩]

def Guild.Spelled (g : Guild) : List Char → Prop := SpelledObject g.fields

def Message.fields (m : Message) : List Field :=
  [⟨"id", False, m.id.Spelled⟩,
    ⟨"channel_id", False, m.channelId.Spelled⟩,
    ⟨"author", False, m.author.Spelled⟩,
    ⟨"content", False, SpelledString m.content⟩,
    ⟨"timestamp", False, SpelledString m.timestamp⟩]

def Message.Spelled (m : Message) : List Char → Prop := SpelledObject m.fields

/-! ### Members -/

theorem reads_optional_text (s : Option String) :
    (Codec.optional Codec.text).Reads 0 s (SpelledOption SpelledString s) := by
  cases s with
  | none => exact Codec.reads_none _ _
  | some s =>
    refine Codec.reads_some (Codec.reads_text s) fun text htext ↦ ?_
    obtain ⟨more, htoken, -⟩ := htext.exists_readString
    exact ⟨_, more, htoken, by decide⟩

theorem Snowflake.reads (id : Snowflake) : Snowflake.codec.Reads 0 id id.Spelled where
  written := Or.inl (spelledString_write id.text)
  read := by
    have hlt : id.value.toNat < Nat.pow 2 64 := id.value.toNat_lt
    intro text gap rest depth htext hgap hrest _
    rcases htext with htext | htext
    · have hid : ofJson (.string id.text) = .ok id := by
        simp only [ofJson, Snowflake.read, Snowflake.text, Decimal.read_toString hlt, Except.map,
          UInt64.ofNat_toNat]
      simp only [Snowflake.codec, readValue_string htext hgap depth rest, bind, Except.bind, hid]
    · have hnumber : ofNat? id.value.toNat = some id := by
        rw [ofNat?, if_pos hlt, UInt64.ofNat_toNat]
      have hid : ofJson (.nat id.value.toNat) = .ok id := by
        rw [ofJson.eq_def]
        simp only [Json.nat, if_neg (Int.not_lt.mpr (Int.natCast_nonneg _)), Int.toNat_natCast,
          hnumber]
      simp only [Snowflake.codec, readValue_natural hlt htext hgap depth hrest, bind, Except.bind,
        hid]

theorem Snowflake.reads_optional (id : Option Snowflake) :
    (Codec.optional Snowflake.codec).Reads 0 id (SpelledOption Snowflake.Spelled id) := by
  cases id with
  | none => exact Codec.reads_none _ _
  | some id =>
    refine Codec.reads_some id.reads fun text htext ↦ ?_
    rcases htext with htext | htext
    · obtain ⟨more, htoken, -⟩ := htext.exists_readString
      exact ⟨_, more, htoken, by decide⟩
    · obtain ⟨b, more, htoken, hdigit, -⟩ := htext.exists_readNumber id.value.toNat_lt
      exact ⟨b, more, htoken, isSpace_of_isDigit hdigit, ne_of_isDigit hdigit (by decide)⟩

/-! ### Resources -/

theorem User.reads (u : User) : User.codec.Reads 1 u u.Spelled := by
  refine Codec.reads_record (.cons u.id.reads nofun (by simp) <|
    .cons (Codec.reads_text u.username) nofun (by simp) <|
    .cons (Codec.reads_text u.discriminator) nofun (by simp) <|
    .cons (reads_optional_text u.avatar) (fun h ↦ congrArg some h.symm) (by simp) <|
    .cons (Codec.reads_flag u.bot) (fun h ↦ congrArg some h.symm) (by simp) .nil) rfl

theorem Channel.reads (c : Channel) : Channel.codec.Reads 1 c c.Spelled := by
  refine Codec.reads_record (.cons c.id.reads nofun (by simp) <|
    .cons (Codec.reads_natural (by decide) c.kind.toNat_lt) nofun (by simp) <|
    .cons (Snowflake.reads_optional c.guildId) (fun h ↦ congrArg some h.symm) (by simp) <|
    .cons (reads_optional_text c.name) (fun h ↦ congrArg some h.symm) (by simp) <|
    .cons (reads_optional_text c.topic) (fun h ↦ congrArg some h.symm) (by simp) .nil) ?_
  simp

theorem Guild.reads (g : Guild) : Guild.codec.Reads 1 g g.Spelled := by
  refine Codec.reads_record (.cons g.id.reads nofun (by simp) <|
    .cons (Codec.reads_text g.name) nofun (by simp) <|
    .cons (reads_optional_text g.icon) (fun h ↦ congrArg some h.symm) (by simp) <|
    .cons (reads_optional_text g.splash) (fun h ↦ congrArg some h.symm) (by simp) <|
    .cons g.ownerId.reads nofun (by simp) .nil) rfl

theorem Message.reads (m : Message) : Message.codec.Reads 2 m m.Spelled := by
  refine Codec.reads_record (.cons (m.id.reads.mono zero_le_one) nofun (by simp) <|
    .cons (m.channelId.reads.mono zero_le_one) nofun (by simp) <|
    .cons m.author.reads nofun (by simp) <|
    .cons ((Codec.reads_text m.content).mono zero_le_one) nofun (by simp) <|
    .cons ((Codec.reads_text m.timestamp).mono zero_le_one) nofun (by simp) .nil) rfl

/-- Every resource is written in one of its spellings, and is read from each of them. -/
theorem resources_faithful :
    Snowflake.codec.Faithful Snowflake.Spelled ∧ User.codec.Faithful User.Spelled ∧
      Channel.codec.Faithful Channel.Spelled ∧ Guild.codec.Faithful Guild.Spelled ∧
        Message.codec.Faithful Message.Spelled :=
  ⟨Codec.faithful_of_reads Snowflake.reads (by decide),
    Codec.faithful_of_reads User.reads (by decide),
    Codec.faithful_of_reads Channel.reads (by decide),
    Codec.faithful_of_reads Guild.reads (by decide),
    Codec.faithful_of_reads Message.reads (by decide)⟩

/-- The identifier may be a number and come last, and an unknown member may hold what no reader
could make sense of. -/
theorem resources_faithful_of_rearranged :
    let user : User := ⟨⟨7⟩, "a\"é", "1", none, false⟩
    let text := "\x7b \"flags\": [1e999,\"\\ud800\"],\"username\":\"a\\\"é\"," ++
      "\"discriminator\":\"1\",\"id\":7\x7d"
    decode User.codec (Utf8.encode text) = .ok user := by
  intro user text
  let flags : List Char := listText [] [{ document := ['1', 'e', '9', '9', '9'] },
    { document := ['"', '\\', 'u', 'd', '8', '0', '0', '"'] }]
  let members : List (String × Member) :=
    [("flags", { name := { document := "flags".toList.flatMap writeChar }
                 value := { before := [' '], document := flags } }),
      writtenMember ("username", .string user.username),
      writtenMember ("discriminator", .string "1"), writtenMember ("id", .nat 7)]
  have hnumber : IsDocument ['1', 'e', '9', '9', '9'] := by
    have hparts : IsUnsigned (['1'] ++ ([] ++ 'e' :: ([] ++ '9' :: ['9', '9']))) :=
      .parts (.digits (by decide) (by decide) nofun) .none
        (.digits (Or.inl rfl) (Or.inl rfl) (by simp [AreDigits]))
    exact .positive hparts
  have hstring : IsDocument ['"', '\\', 'u', 'd', '8', '0', '0', '"'] := by
    have hcode : Code ['d', '8', '0', '0'] _ := .four rfl rfl rfl rfl
    exact .string (.code hcode .nil)
  have hflags : IsDocument flags :=
    .list nofun (by simp [Item.IsSpaced, IsGap]) (by simp [hnumber, hstring])
  have hspelled : user.Spelled (objectText [' '] (members.map Prod.snd)) := by
    refine .intro (by simp [IsGap]) ?spaced ?names (by decide) ?values ?present
    case spaced => simp [members, writtenMember, Member.IsSpaced, Item.IsSpaced, IsGap]
    case names =>
      simp only [members, List.forall_mem_cons]
      exact ⟨spelledChars_write _, spelledChars_write _, spelledChars_write _,
        spelledChars_write _, List.forall_mem_nil _⟩
    case values =>
      simp only [members, List.forall_mem_cons]
      exact ⟨Or.inr ⟨by decide, hflags⟩,
        Or.inl ⟨_, .tail _ (.head _), rfl, spelledString_write user.username⟩,
        Or.inl ⟨_, .tail _ (.tail _ (.head _)), rfl, spelledString_write "1"⟩,
        Or.inl ⟨_, .head _, rfl, Or.inr rfl⟩, List.forall_mem_nil _⟩
    case present => simp [User.fields, members, writtenMember, user]
  have hread := (resources_faithful.2.1 user).2.2 [] _ [] nofun hspelled nofun
  have htext : String.ofList ([] ++ objectText [' '] (members.map Prod.snd) ++ []) = text := by
    decide +kernel
  rwa [htext] at hread

end Errand.Chat
