import Errand.Chat.Endpoint
import Errand.Chat.Image
import Errand.Proofs.Text.Pieces

/-!
A call shows what it is for. The address of an endpoint is a list of segments, each with a slash in
front of it and none inside (`Endpoint.path_eq_iff`), and with the method and the body it determines
the endpoint (`Endpoint.eq_of_call_eq`). The address of an image is read from its end up to the
subject, whose hash may be any text, and then from the front (`Image.url_eq_iff`). The two kinds of
addresses have different bases. So two descriptors that can be made, and that make the same call,
are the same (`same_call_iff_same`).
-/

set_option autoImplicit false

namespace Errand.Chat

namespace Snowflake

theorem text_inj {id id' : Snowflake} : id.text = id'.text ↔ id = id' := by
  constructor
  · intro h
    have hvalue : id.value = id'.value := UInt64.toNat_inj.mp (Nat.repr_inj.mp h)
    cases id
    cases id'
    exact congrArg mk hvalue
  · rintro rfl
    rfl

theorem notMem_text {c : Char} (hc : c.isDigit = false) (id : Snowflake) : c ∉ id.text.toList :=
  notMem_toList_toString hc id.value.toNat

end Snowflake

/-! ### Endpoints -/

namespace Endpoint

/-- The parts of an address that stand behind slashes. -/
def segments : Endpoint → List String
  | getChannel channel => ["channels", channel.text]
  | getGuild guild => ["guilds", guild.text]
  | getUser user => ["users", user.text]
  | getCurrentUser => ["users", "@me"]
  | createMessage channel _ => ["channels", channel.text, "messages"]
  | getMessage channel message | deleteMessage channel message =>
    ["channels", channel.text, "messages", message.text]

theorem path_eq_segments (e : Endpoint) :
    e.path.toList = (e.segments.map String.toList).flatMap ('/' :: ·) := by
  cases e <;> simp [path, messagesPath, segments]

theorem slash_notMem_segments (e : Endpoint) : ∀ x ∈ e.segments.map String.toList, '/' ∉ x := by
  have hid := Snowflake.notMem_text (c := '/') (by decide)
  cases e <;> simp [segments, hid]

theorem path_eq_iff {e e' : Endpoint} : e.path = e'.path ↔ e.segments = e'.segments := by
  rw [← String.toList_inj, path_eq_segments, path_eq_segments]
  constructor
  · intro h
    have hparts := eq_of_flatMap_cons_eq e.slash_notMem_segments e'.slash_notMem_segments h
    exact List.map_injective_iff.mpr (fun _ _ ↦ String.toList_inj.mp) hparts
  · intro h
    rw [h]

theorem text_ne_me (user : Snowflake) : user.text ≠ "@me" := by
  intro h
  have hat := user.notMem_text (c := '@') (by decide)
  simp [h] at hat

theorem createMessage_body_inj {channel channel' : Snowflake} {content content' : Content} :
    (createMessage channel content).body = (createMessage channel' content').body ↔
      content = content' := by
  constructor
  · intro h
    have hquoted : Json.writeString content.text = Json.writeString content'.text := by
      simpa [body, Json.text, Json.object, Json.write, Json.writeMembers, Json.writeMoreMembers,
        String.ofList_inj] using h
    have htext := Json.writeString_injective hquoted
    cases content
    cases content'
    exact Content.mk.injEq .. ▸ htext
  · rintro rfl
    rfl

/-- The method, the address and the body of a call determine its endpoint. -/
theorem eq_of_call_eq {e e' : Endpoint} (hmethod : e.method = e'.method)
    (hpath : e.path = e'.path) (hbody : e.body = e'.body) : e = e' := by
  have hsegments := path_eq_iff.mp hpath
  cases e <;> cases e' <;>
    simp_all [segments, method, Snowflake.text_inj, text_ne_me, (text_ne_me _).symm,
      createMessage_body_inj]

end Endpoint

/-! ### Images -/

namespace ImageFormat

theorem dot_notMem_extension (format : ImageFormat) : '.' ∉ format.extension.toList := by
  cases format <;> simp [extension]

theorem extension_inj {format format' : ImageFormat} :
    format.extension = format'.extension ↔ format = format' := by
  cases format <;> cases format' <;> simp [extension]

end ImageFormat

namespace ImageSize

theorem text_inj {size size' : ImageSize} : size.text = size'.text ↔ size = size' := by
  constructor
  · intro h
    have hpixels : size.pixels = size'.pixels := Nat.repr_inj.mp h
    cases size
    cases size'
    exact ImageSize.mk.injEq .. ▸ hpixels
  · rintro rfl
    rfl

/-- The sizes served are the powers of two from the smallest to the largest. -/
theorem mem_all_iff {pixels : ℕ} :
    pixels ∈ all ↔ 16 ≤ pixels ∧ pixels ≤ 2048 ∧ ∃ n, pixels = 2 ^ n := by
  constructor
  · intro h
    have hpowers : ∀ size ∈ all, 16 ≤ size ∧ size ≤ 2048 ∧ ∃ n < 12, size = 2 ^ n := by decide
    obtain ⟨hsmallest, hlargest, n, -, hn⟩ := hpowers pixels h
    exact ⟨hsmallest, hlargest, n, hn⟩
  · rintro ⟨hsmallest, hlargest, n, rfl⟩
    have hlow : 4 ≤ n := (Nat.pow_le_pow_iff_right Nat.one_lt_two).mp hsmallest
    have hhigh : n ≤ 11 := (Nat.pow_le_pow_iff_right Nat.one_lt_two).mp hlargest
    interval_cases n <;> decide

end ImageSize

namespace Gallery

theorem slash_notMem_directory (gallery : Gallery) : '/' ∉ gallery.directory.toList := by
  cases gallery <;> simp [directory]

theorem directory_inj {gallery gallery' : Gallery} :
    gallery.directory = gallery'.directory ↔ gallery = gallery' := by
  cases gallery <;> cases gallery' <;> simp [directory]

end Gallery

namespace Subject

/-- The part of an address up to its first slash. -/
def directory : Subject → String
  | emoji .. => "emojis"
  | hashed gallery .. => gallery.directory
  | defaultAvatar _ => "embed"

/-- The part of an address behind its first slash. -/
def name : Subject → String
  | emoji id _ => id.text
  | hashed _ owner hash => owner.text ++ "/" ++ hash
  | defaultAvatar discriminator => "avatars/" ++ toString (discriminator % defaultAvatars)

theorem path_eq (subject : Subject) :
    subject.path.toList = subject.directory.toList ++ '/' :: subject.name.toList := by
  cases subject <;> simp [path, directory, name]

theorem slash_notMem_directory (subject : Subject) : '/' ∉ subject.directory.toList := by
  cases subject <;> simp [directory, Gallery.slash_notMem_directory]

theorem path_eq_iff {subject subject' : Subject} :
    subject.path = subject'.path ↔
      subject.directory = subject'.directory ∧ subject.name = subject'.name := by
  rw [← String.toList_inj, path_eq, path_eq]
  constructor
  · intro h
    have hparts := append_cons_inj_of_notMem_left subject.slash_notMem_directory
      subject'.slash_notMem_directory h
    exact ⟨String.toList_inj.mp hparts.1, String.toList_inj.mp hparts.2⟩
  · rintro ⟨hdirectory, hname⟩
    rw [hdirectory, hname]

theorem name_hashed_inj {gallery gallery' : Gallery} {owner owner' : Snowflake}
    {hash hash' : String} :
    (hashed gallery owner hash).name = (hashed gallery' owner' hash').name ↔
      owner = owner' ∧ hash = hash' := by
  constructor
  · intro h
    have hchars : owner.text.toList ++ '/' :: hash.toList
        = owner'.text.toList ++ '/' :: hash'.toList := by
      simpa [name] using congrArg String.toList h
    have hslash := Snowflake.notMem_text (c := '/') (by decide)
    obtain ⟨howner, hhash⟩ := append_cons_inj_of_notMem_left (hslash owner) (hslash owner') hchars
    exact ⟨Snowflake.text_inj.mp (String.toList_inj.mp howner), String.toList_inj.mp hhash⟩
  · rintro ⟨rfl, rfl⟩
    rfl

/-- Whether two subjects are the same. A default avatar is known by what is left of the
discriminator. -/
def Same : Subject → Subject → Prop
  | defaultAvatar discriminator, defaultAvatar discriminator' =>
    discriminator % defaultAvatars = discriminator' % defaultAvatars
  | subject, subject' => subject = subject'

theorem emojiFormat_inj {animated animated' : Bool} :
    emojiFormat animated = emojiFormat animated' ↔ animated = animated' := by
  cases animated <;> cases animated' <;> simp [emojiFormat]

/-- Whether an emoji moves shows in the format only. -/
theorem same_iff_path_eq {subject subject' : Subject} {format : ImageFormat}
    (hserved : format ∈ subject.formats) (hserved' : format ∈ subject'.formats) :
    subject.Same subject' ↔ subject.path = subject'.path := by
  rw [path_eq_iff]
  cases subject with
  | emoji id animated =>
    cases subject' with
    | emoji id' animated' =>
      have hanimated : animated = animated' := by
        rw [← emojiFormat_inj, ← List.mem_singleton.mp hserved, ← List.mem_singleton.mp hserved']
      simp [Same, directory, name, hanimated, Snowflake.text_inj]
    | hashed gallery' => cases gallery' <;> simp [Same, directory, Gallery.directory]
    | defaultAvatar => simp [Same, directory]
  | hashed gallery =>
    cases subject' with
    | emoji => cases gallery <;> simp [Same, directory, Gallery.directory]
    | hashed => simp [Same, directory, Gallery.directory_inj, name_hashed_inj]
    | defaultAvatar => cases gallery <;> simp [Same, directory, Gallery.directory]
  | defaultAvatar discriminator =>
    cases subject' with
    | emoji => simp [Same, directory]
    | hashed gallery' => cases gallery' <;> simp [Same, directory, Gallery.directory]
    | defaultAvatar => simp [Same, directory, name, Nat.repr_inj]

end Subject

namespace Image

/-- An address up to the extension. -/
def stem (image : Image) : List Char := imageBase.toList ++ '/' :: image.subject.path.toList

theorem url_eq (image : Image) :
    image.url.toList
      = (image.stem ++ '.' :: image.format.extension.toList) ++ "?size".toList
        ++ '=' :: image.size.text.toList := by
  simp [url, stem]

theorem url_eq_iff {image image' : Image} :
    image.url = image'.url ↔
      image.subject.Same image'.subject ∧ image.format = image'.format ∧
        image.size = image'.size := by
  constructor
  · intro h
    rw [← String.toList_inj, url_eq, url_eq] at h
    have hequals (image : Image) : '=' ∉ image.size.text.toList :=
      notMem_toList_toString (by decide) image.size.pixels
    obtain ⟨hfront, hsize⟩ := append_cons_inj_of_notMem_right (hequals image) (hequals image') h
    obtain ⟨hstem, hextension⟩ := append_cons_inj_of_notMem_right
      image.format.dot_notMem_extension image'.format.dot_notMem_extension
      (List.append_cancel_right hfront)
    have hformat : image.format = image'.format :=
      ImageFormat.extension_inj.mp (String.toList_inj.mp hextension)
    have hpath : image.subject.path = image'.subject.path :=
      String.toList_inj.mp (List.cons.inj (List.append_cancel_left hstem)).2
    have hsubject :=
      (Subject.same_iff_path_eq image.served (hformat ▸ image'.served)).mpr hpath
    exact ⟨hsubject, hformat, ImageSize.text_inj.mp (String.toList_inj.mp hsize)⟩
  · rintro ⟨hsubject, hformat, hsize⟩
    have hpath := (Subject.same_iff_path_eq image.served (hformat ▸ image'.served)).mp hsubject
    simp only [url, hpath, hformat, hsize]

/-- What an image may be asked for. -/
theorem exists_ofSubject_iff {subject : Subject} {format : ImageFormat} {pixels : ℕ} :
    (∃ image, ofSubject subject format pixels = .ok image ∧ image.subject = subject ∧
        image.format = format ∧ image.size.pixels = pixels) ↔
      format ∈ subject.formats ∧ 16 ≤ pixels ∧ pixels ≤ 2048 ∧ ∃ n, pixels = 2 ^ n := by
  rw [← ImageSize.mem_all_iff]
  constructor
  · rintro ⟨image, -, rfl, rfl, rfl⟩
    exact ⟨image.served, image.size.served⟩
  · rintro ⟨hformat, hpixels⟩
    refine ⟨⟨subject, format, ⟨pixels, hpixels⟩, hformat⟩, ?_, rfl, rfl, rfl⟩
    simp [ofSubject, ImageSize.ofPixels, hformat, hpixels, Except.map]

end Image

/-- What a message may be. -/
theorem Content.exists_ofText_iff {text : String} :
    (∃ content, ofText text = .ok content ∧ content.text = text) ↔
      1 ≤ text.length ∧ text.length ≤ 2000 := by
  constructor
  · rintro ⟨content, -, rfl⟩
    exact ⟨content.length_pos, content.length_le⟩
  · rintro ⟨hpos, hle⟩
    refine ⟨⟨text, hpos, hle⟩, ?_, rfl⟩
    have hnonempty : 0 < text.length := hpos
    simp [ofText, hnonempty, maxMessageLength, hle]

/-! ### Descriptors -/

/-- A call on the service or for an image. -/
inductive Descriptor where
  | endpoint (e : Endpoint)
  | image (i : Image)

namespace Descriptor

def route : Descriptor → Route
  | endpoint e => e.request.route
  | image i => i.request.route

def body : Descriptor → Body
  | endpoint e => e.request.body
  | image i => i.request.body

/-- The same kind of call with the same fields. -/
def Same : Descriptor → Descriptor → Prop
  | endpoint e, endpoint e' => e = e'
  | image i, image i' => i.subject.Same i'.subject ∧ i.format = i'.format ∧ i.size = i'.size
  | _, _ => False

theorem endpoint_call_eq_iff {e e' : Endpoint} :
    e.request.route = e'.request.route ∧ e.request.body = e'.request.body ↔ e = e' := by
  constructor
  · rintro ⟨hroute, hbody⟩
    obtain ⟨hmethod, huri⟩ := Route.mk.inj hroute
    exact Endpoint.eq_of_call_eq hmethod ((String.append_right_inj apiBase).mp huri) hbody
  · rintro rfl
    exact ⟨rfl, rfl⟩

theorem image_call_eq_iff {i i' : Image} :
    i.request.route = i'.request.route ∧ i.request.body = i'.request.body ↔
      i.subject.Same i'.subject ∧ i.format = i'.format ∧ i.size = i'.size := by
  rw [← Image.url_eq_iff]
  constructor
  · rintro ⟨hroute, -⟩
    exact (Route.mk.inj hroute).2
  · intro h
    exact ⟨congrArg (Route.mk .get) h, rfl⟩

/-- The two bases are different hosts. -/
theorem endpoint_route_ne_image_route (e : Endpoint) (i : Image) :
    e.request.route ≠ i.request.route := by
  intro hroute
  have hchars := congrArg String.toList (Route.mk.inj hroute).2
  simp [Image.url, apiBase, imageBase] at hchars

/-- Two descriptors have the same route and the same body if and only if they are the same. A
message is made of any text of 1 to 2000 characters and of no other; an image is made in any format
that its subject is served in, of any size that is a power of two from 16 to 2048, and no other. -/
theorem same_call_iff_same :
    (∀ d d' : Descriptor, d.route = d'.route ∧ d.body = d'.body ↔ d.Same d') ∧
      (∀ text, (∃ content, Content.ofText text = .ok content ∧ content.text = text) ↔
          1 ≤ text.length ∧ text.length ≤ 2000) ∧
      ∀ subject format pixels,
          (∃ image, Image.ofSubject subject format pixels = .ok image ∧ image.subject = subject ∧
              image.format = format ∧ image.size.pixels = pixels) ↔
            format ∈ subject.formats ∧ 16 ≤ pixels ∧ pixels ≤ 2048 ∧ ∃ n, pixels = 2 ^ n := by
  refine ⟨?_, fun _ ↦ Content.exists_ofText_iff, fun _ _ _ ↦ Image.exists_ofSubject_iff⟩
  intro d d'
  cases d with
  | endpoint e =>
    cases d' with
    | endpoint e' => exact endpoint_call_eq_iff
    | image i' => exact iff_of_false (fun h ↦ endpoint_route_ne_image_route e i' h.1) id
  | image i =>
    cases d' with
    | endpoint e' => exact iff_of_false (fun h ↦ endpoint_route_ne_image_route e' i h.1.symm) id
    | image i' => exact image_call_eq_iff

end Descriptor

end Errand.Chat
