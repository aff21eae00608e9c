import Errand.Chat.Model
import Errand.Request

/-!
The calls on the resources of the chat service. Each endpoint has a type of results of its own;
`Endpoint.request` is the request that makes the call and reads the result. The text of a message
is checked when it is made, so that every endpoint can be called.
-/

set_option autoImplicit false

namespace Errand.Chat

/-- The base of all addresses of the service. -/
def apiBase : String := "https://discord.com/api/v10"

/-- Why a text cannot be sent as a message. -/
inductive MessageFault where
  | empty
  | tooLong (length : Nat)
  deriving DecidableEq, Repr

/-- The number of characters that a message may have. -/
def maxMessageLength : Nat := 2000

def MessageFault.message : MessageFault → String
  | empty => "message content must not be empty"
  | tooLong length =>
    s!"message content must be at most {maxMessageLength} characters, got {length}"

/-- A text that can be sent as a message. -/
structure Content where
  text : String
  length_pos : 0 < text.length
  length_le : text.length ≤ maxMessageLength
  deriving DecidableEq

/-- Checks a text in characters. -/
def Content.ofText (text : String) : Except MessageFault Content :=
  if hp : 0 < text.length then
    if hl : text.length ≤ maxMessageLength then .ok ⟨text, hp, hl⟩
    else .error (.tooLong text.length)
  else .error .empty

inductive Endpoint where
  | getChannel (channel : Snowflake)
  | getGuild (guild : Snowflake)
  | getUser (user : Snowflake)
  /-- The user whose credentials are used. -/
  | getCurrentUser
  | getMessage (channel message : Snowflake)
  | createMessage (channel : Snowflake) (content : Content)
  | deleteMessage (channel message : Snowflake)
  deriving DecidableEq

namespace Endpoint

/-- What a call brings back. -/
@[reducible] def Result : Endpoint → Type
  | getChannel _ => Channel
  | getGuild _ => Guild
  | getUser _ | getCurrentUser => User
  | getMessage .. | createMessage .. => Message
  | deleteMessage .. => Unit

/-- The address of a channel's messages, or of one of them. -/
def messagesPath (channel : Snowflake) : String := "/channels/" ++ channel.text ++ "/messages"

def method : Endpoint → Method
  | createMessage .. => .post
  | deleteMessage .. => .delete
  | _ => .get

/-- The address of an endpoint within the service. -/
def path : Endpoint → String
  | getChannel channel => "/channels/" ++ channel.text
  | getGuild guild => "/guilds/" ++ guild.text
  | getUser user => "/users/" ++ user.text
  | getCurrentUser => "/users/@me"
  | createMessage channel _ => messagesPath channel
  | getMessage channel message | deleteMessage channel message =>
    messagesPath channel ++ "/" ++ message.text

def route (e : Endpoint) : Route := ⟨e.method, apiBase ++ e.path⟩

def body : Endpoint → Body
  | createMessage _ content => .json (Json.object [("content", .string content.text)]).text
  | _ => .empty

/-- Reads the result of a call. A deletion succeeds whatever comes back. -/
def decode : (e : Endpoint) → Response → Except DecodeError (Option e.Result)
  | getChannel _ => decodeJson Channel.codec
  | getGuild _ => decodeJson Guild.codec
  | getUser _ | getCurrentUser => decodeJson User.codec
  | getMessage .. | createMessage .. => decodeJson Message.codec
  | deleteMessage .. => fun _ ↦ .ok (some ())

/-- The result of a call as a document. -/
def writeResult : (e : Endpoint) → e.Result → Json
  | getChannel _ => Channel.codec.write
  | getGuild _ => Guild.codec.write
  | getUser _ | getCurrentUser => User.codec.write
  | getMessage .. | createMessage .. => Message.codec.write
  | deleteMessage .. => fun () ↦ .null

/-- The endpoint as it shows inside a program. -/
def label : Endpoint → String
  | getChannel channel => "GetChannel \x7b channel_id: " ++ channel.label ++ " \x7d"
  | getGuild guild => "GetGuild \x7b guild_id: " ++ guild.label ++ " \x7d"
  | getUser user => "GetUser \x7b user_id: " ++ user.label ++ " \x7d"
  | getCurrentUser => "GetCurrentUser"
  | getMessage channel message =>
    "GetChannelMessage \x7b channel_id: " ++ channel.label
      ++ ", message_id: " ++ message.label ++ " \x7d"
  | createMessage channel content =>
    "CreateMessage \x7b channel_id: " ++ channel.label
      ++ ", content: " ++ Quoted.quote content.text ++ " \x7d"
  | deleteMessage channel message =>
    "DeleteMessage \x7b channel_id: " ++ channel.label
      ++ ", message_id: " ++ message.label ++ " \x7d"

def request (e : Endpoint) : Request e.Result where
  route := e.route
  body := e.body
  decode := e.decode
  label := e.label

end Endpoint

end Errand.Chat
