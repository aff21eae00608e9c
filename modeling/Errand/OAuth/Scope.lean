import Errand.Text.Blank
import Errand.Text.Quoted

/-!
What an application may be allowed to do. Lists of scopes are written with one blank between their
tokens, and read from any text: tokens stand between white space, and unknown ones vanish.
-/

set_option autoImplicit false

namespace Errand.OAuth

inductive Scope where
  | identify
  | email
  | connections
  | guilds
  | guildsJoin
  | guildsMembersRead
  | bot
  | applicationsCommands
  | messagesRead
  | webhookIncoming
  deriving DecidableEq, Repr

/-- The only way to read no scope: a token that names none. -/
structure UnknownScope where
  token : String
  deriving DecidableEq, Repr

def UnknownScope.message (fault : UnknownScope) : String :=
  "unknown OAuth2 scope: " ++ Quoted.quote fault.token

namespace Scope

def all : List Scope :=
  [identify, email, connections, guilds, guildsJoin, guildsMembersRead, bot,
    applicationsCommands, messagesRead, webhookIncoming]

/-- The name of a scope on the wire. -/
def token : Scope → String
  | identify => "identify"
  | email => "email"
  | connections => "connections"
  | guilds => "guilds"
  | guildsJoin => "guilds.join"
  | guildsMembersRead => "guilds.members.read"
  | bot => "bot"
  | applicationsCommands => "applications.commands"
  | messagesRead => "messages.read"
  | webhookIncoming => "webhook.incoming"

/-- A scope as it shows inside a descriptor. -/
def label : Scope → String
  | identify => "Identify"
  | email => "Email"
  | connections => "Connections"
  | guilds => "Guilds"
  | guildsJoin => "GuildsJoin"
  | guildsMembersRead => "GuildsMembersRead"
  | bot => "Bot"
  | applicationsCommands => "ApplicationsCommands"
  | messagesRead => "MessagesRead"
  | webhookIncoming => "WebhookIncoming"

def ofToken? (token : String) : Option Scope := all.find? (·.token = token)

def ofToken (token : String) : Except UnknownScope Scope :=
  match ofToken? token with
  | some scope => .ok scope
  | none => .error ⟨token⟩

/-- The scopes that a text lists, in order. -/
def readList (text : String) : List Scope :=
  (Blank.words text.toList).filterMap fun word ↦ ofToken? (String.ofList word)

/-- Scopes as a text. -/
def join (scopes : List Scope) : String := " ".intercalate (scopes.map token)

end Scope

end Errand.OAuth
