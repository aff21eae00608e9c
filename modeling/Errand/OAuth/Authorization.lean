import Errand.Chat.Snowflake
import Errand.OAuth.Scope
import Errand.Text.Form
import Errand.Url

/-!
The address where users allow an application to act for them. Its parameters are set one by one,
the last setting of each being valid; scopes add up, each once.
-/

set_option autoImplicit false

namespace Errand.OAuth

open Chat (Snowflake)

/-- Whether users are asked again who have agreed before. -/
inductive Prompt where
  | consent
  | none
  deriving DecidableEq, Repr

def Prompt.token : Prompt → String
  | consent => "consent"
  | none => "none"

structure Authorization where
  clientId : Snowflake
  scopes : List Scope := []
  /-- What the service hands back along with the code. -/
  state : Option String := .none
  redirectUri : Option Url := .none
  prompt : Option Prompt := .none

namespace Authorization

/-- Where users go. -/
def endpoint : String := "https://discord.com/oauth2/authorize"

/-- Asks for one more scope. -/
def scope (s : Scope) (a : Authorization) : Authorization :=
  if a.scopes.contains s then a else { a with scopes := a.scopes ++ [s] }

/-- Asks for several scopes. -/
def withScopes (scopes : List Scope) (a : Authorization) : Authorization :=
  scopes.foldl (fun a s ↦ a.scope s) a

/-- One step in setting up an address. -/
inductive Setting where
  | scope (scope : Scope)
  | scopes (scopes : List Scope)
  | state (text : String)
  | redirectUri (url : Url)
  | prompt (prompt : Prompt)

/-- Takes one step. -/
def set (a : Authorization) : Setting → Authorization
  | .scope s => a.scope s
  | .scopes scopes => a.withScopes scopes
  | .state text => { a with state := some text }
  | .redirectUri url => { a with redirectUri := some url }
  | .prompt prompt => { a with prompt := some prompt }

/-- Takes the steps one after the other. -/
def setAll (settings : List Setting) (a : Authorization) : Authorization := settings.foldl set a

/-- The parameters that are set, in their order. -/
def pairs (a : Authorization) : List (String × String) :=
  [("response_type", "code"), ("client_id", a.clientId.text)]
    ++ (if a.scopes.isEmpty then [] else [("scope", Scope.join a.scopes)])
    ++ (a.state.map fun state ↦ ("state", state)).toList
    ++ (a.redirectUri.map fun url ↦ ("redirect_uri", url.text)).toList
    ++ (a.prompt.map fun prompt ↦ ("prompt", prompt.token)).toList

def query (a : Authorization) : String := String.ofList (Form.encode a.pairs)

def url (a : Authorization) : String := endpoint ++ "?" ++ a.query

end Authorization

end Errand.OAuth
