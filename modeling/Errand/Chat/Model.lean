import Errand.Chat.Snowflake

/-!
The resources of the chat service and their JSON forms. Optional members may be missing, unknown
ones are ignored.
-/

set_option autoImplicit false

namespace Errand.Chat

open Json

/-- A user account. -/
structure User where
  id : Snowflake
  username : String
  /-- Tells users of the same name apart. -/
  discriminator : String
  /-- The hash of the avatar, if one is set. -/
  avatar : Option String
  /-- Whether the account belongs to an application. -/
  bot : Bool
  deriving DecidableEq

/-- A text, voice or direct-message channel; the latter have neither guild nor name. -/
structure Channel where
  id : Snowflake
  kind : UInt8
  guildId : Option Snowflake
  name : Option String
  topic : Option String
  deriving DecidableEq

/-- A collection of users and channels. -/
structure Guild where
  id : Snowflake
  name : String
  /-- The hash of the icon, if there is one. -/
  icon : Option String
  /-- The hash of the invite splash image, if there is one. -/
  splash : Option String
  ownerId : Snowflake
  deriving DecidableEq

/-- A message in a channel, with the time it was sent as text. -/
structure Message where
  id : Snowflake
  channelId : Snowflake
  author : User
  content : String
  timestamp : String
  deriving DecidableEq

/-- The discriminator as a number, if it is one of 16 bits. -/
def User.discriminatorNumber? (user : User) : Option Nat :=
  (Decimal.read (Nat.pow 2 16) user.discriminator).toOption

def User.codec : Codec User :=
  .record "User"
    (.cons "id" Snowflake.codec none <|
      .cons "username" Codec.text none <|
      .cons "discriminator" Codec.text none <|
      .cons "avatar" (.optional Codec.text) (some none) <|
      .cons "bot" Codec.flag (some false) .nil)
    (fun (id, username, discriminator, avatar, bot, ()) ↦
      ⟨id, username, discriminator, avatar, bot⟩)
    (fun u ↦ (u.id, u.username, u.discriminator, u.avatar, u.bot, ()))

def Channel.codec : Codec Channel :=
  .record "Channel"
    (.cons "id" Snowflake.codec none <|
      .cons "type" (Codec.natural "u8" 256) none <|
      .cons "guild_id" (.optional Snowflake.codec) (some none) <|
      .cons "name" (.optional Codec.text) (some none) <|
      .cons "topic" (.optional Codec.text) (some none) .nil)
    (fun (id, kind, guildId, name, topic, ()) ↦ ⟨id, UInt8.ofNat kind, guildId, name, topic⟩)
    (fun c ↦ (c.id, c.kind.toNat, c.guildId, c.name, c.topic, ()))

def Guild.codec : Codec Guild :=
  .record "Guild"
    (.cons "id" Snowflake.codec none <|
      .cons "name" Codec.text none <|
      .cons "icon" (.optional Codec.text) (some none) <|
      .cons "splash" (.optional Codec.text) (some none) <|
      .cons "owner_id" Snowflake.codec none .nil)
    (fun (id, name, icon, splash, ownerId, ()) ↦ ⟨id, name, icon, splash, ownerId⟩)
    (fun g ↦ (g.id, g.name, g.icon, g.splash, g.ownerId, ()))

def Message.codec : Codec Message :=
  .record "Message"
    (.cons "id" Snowflake.codec none <|
      .cons "channel_id" Snowflake.codec none <|
      .cons "author" User.codec none <|
      .cons "content" Codec.text none <|
      .cons "timestamp" Codec.text none .nil)
    (fun (id, channelId, author, content, timestamp, ()) ↦
      ⟨id, channelId, author, content, timestamp⟩)
    (fun m ↦ (m.id, m.channelId, m.author, m.content, m.timestamp, ()))

end Errand.Chat
