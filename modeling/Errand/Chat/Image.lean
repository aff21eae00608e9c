import Errand.Chat.Snowflake
import Errand.Request

/-!
Images of the content delivery network. Each subject is served in formats of its own and in sizes
that are powers of two; both are checked when an image is made. Images are public and come as they
are, but never empty.
-/

set_option autoImplicit false

namespace Errand.Chat

/-- The base of all addresses of images. -/
def imageBase : String := "https://cdn.discordapp.com"

inductive ImageFormat where
  | png
  | jpeg
  | webp
  | gif
  deriving DecidableEq, Repr

namespace ImageFormat

def all : List ImageFormat := [png, jpeg, webp, gif]

/-- The extension of file names in the format. -/
def extension : ImageFormat → String
  | png => "png"
  | jpeg => "jpg"
  | webp => "webp"
  | gif => "gif"

/-- The format as it shows inside a descriptor. -/
def label : ImageFormat → String
  | png => "Png"
  | jpeg => "Jpeg"
  | webp => "WebP"
  | gif => "Gif"

/-- The format with the given extension. -/
def named? (extension : String) : Option ImageFormat := all.find? (·.extension = extension)

end ImageFormat

/-- The formats of images that do not move. -/
def staticFormats : List ImageFormat := [.png, .jpeg, .webp]

/-- The formats of users' avatars. -/
def avatarFormats : List ImageFormat := [.png, .jpeg, .webp, .gif]

/-- Why there is no such image. -/
inductive ImageFault where
  | badSize (size : Nat)
  | badFormat (format : ImageFormat) (served : List ImageFormat)
  deriving DecidableEq, Repr

/-- The sizes served, in pixels along an edge. -/
def ImageSize.all : List Nat := [16, 32, 64, 128, 256, 512, 1024, 2048]

structure ImageSize where
  pixels : Nat
  served : pixels ∈ ImageSize.all
  deriving DecidableEq

namespace ImageSize

def smallest : ImageSize := ⟨16, by decide⟩

def largest : ImageSize := ⟨2048, by decide⟩

def ofPixels (pixels : Nat) : Except ImageFault ImageSize :=
  if h : pixels ∈ all then .ok ⟨pixels, h⟩ else .error (.badSize pixels)

def text (size : ImageSize) : String := toString size.pixels

end ImageSize

def ImageFault.message : ImageFault → String
  | badSize size =>
    "size must be a power of two between " ++ ImageSize.smallest.text ++ " and "
      ++ ImageSize.largest.text ++ ", got " ++ toString size
  | badFormat format served =>
    format.extension ++ " is not available for this image; expected one of ["
      ++ ", ".intercalate (served.map ImageFormat.label) ++ "]"

/-- The collections of images that are told apart by a hash. -/
inductive Gallery where
  | guildIcons
  | guildSplashes
  | userAvatars
  | applicationIcons
  deriving DecidableEq, Repr

namespace Gallery

def directory : Gallery → String
  | guildIcons => "icons"
  | guildSplashes => "splashes"
  | userAvatars => "avatars"
  | applicationIcons => "app-icons"

def formats : Gallery → List ImageFormat
  | userAvatars => avatarFormats
  | guildIcons | guildSplashes | applicationIcons => staticFormats

end Gallery

/-- What an image shows. -/
inductive Subject where
  | emoji (id : Snowflake) (animated : Bool)
  | hashed (gallery : Gallery) (owner : Snowflake) (hash : String)
  /-- One of five, for users without an avatar of their own. -/
  | defaultAvatar (discriminator : Nat)
  deriving DecidableEq

namespace Subject

/-- The number of default avatars. -/
def defaultAvatars : Nat := 5

def path : Subject → String
  | emoji id _ => "emojis/" ++ id.text
  | hashed gallery owner hash => gallery.directory ++ "/" ++ owner.text ++ "/" ++ hash
  | defaultAvatar discriminator =>
    "embed/avatars/" ++ toString (discriminator % defaultAvatars)

/-- The format of emojis, which depends on whether they move. -/
def emojiFormat (animated : Bool) : ImageFormat := if animated then .gif else .png

/-- The formats a subject is served in. -/
def formats : Subject → List ImageFormat
  | emoji _ animated => [emojiFormat animated]
  | hashed gallery _ _ => gallery.formats
  | defaultAvatar _ => [.png]

end Subject

/-- An image that is served. -/
structure Image where
  subject : Subject
  format : ImageFormat
  size : ImageSize
  served : format ∈ subject.formats
  deriving DecidableEq

namespace Image

/-- Checks the format first, then the size. -/
def ofSubject (subject : Subject) (format : ImageFormat) (pixels : Nat) :
    Except ImageFault Image :=
  if h : format ∈ subject.formats then
    (ImageSize.ofPixels pixels).map fun size ↦ ⟨subject, format, size, h⟩
  else .error (.badFormat format subject.formats)

def emoji (id : Snowflake) (animated : Bool) (pixels : Nat) : Except ImageFault Image :=
  ofSubject (.emoji id animated) (Subject.emojiFormat animated) pixels

def defaultAvatar (discriminator pixels : Nat) : Except ImageFault Image :=
  ofSubject (.defaultAvatar discriminator) .png pixels

def url (image : Image) : String :=
  imageBase ++ "/" ++ image.subject.path ++ "." ++ image.format.extension ++ "?size="
    ++ image.size.text

/-- The image as it shows inside a program. -/
def label (image : Image) : String :=
  "CdnImage \x7b path: " ++ Quoted.quote image.subject.path ++ ", format: " ++ image.format.label
    ++ ", size: ImageSize(" ++ image.size.text ++ ") \x7d"

/-- The request for the bytes of an image. -/
def request (image : Image) : Request (List UInt8) where
  route := ⟨.get, image.url⟩
  requiresAuth := false
  decode response :=
    if response.body.isEmpty then .error .emptyImage else .ok (some response.body)
  label := image.label

end Image

end Errand.Chat
