import Errand.OAuth.Scope
import Errand.Chat.Snowflake
import Errand.Request
import Errand.Text.Base64
import Errand.Text.Form
import Errand.Url

/-!
Requests for access tokens. Each kind of grant sends its parameters as a form, under the credentials
of the application itself. A credential never shows its secret.
-/

set_option autoImplicit false

namespace Errand.OAuth

open Chat (Snowflake)

/-- Who an application is, and how it proves that. -/
structure Credentials where
  clientId : Snowflake
  secret : String
  deriving DecidableEq

namespace Credentials

/-- The text that proves who the application is. -/
def pairText (c : Credentials) : String := c.clientId.text ++ ":" ++ c.secret

def header (c : Credentials) : Header :=
  ⟨"Authorization", "Basic " ++ String.ofList (Base64.encode (Utf8.encode c.pairText))⟩

/-- The credentials as they show inside a descriptor. -/
def label (c : Credentials) : String :=
  "ClientCredentials \x7b client_id: " ++ c.clientId.label
    ++ ", client_secret: \"<redacted>\" \x7d"

end Credentials

structure AccessToken where
  accessToken : String
  /-- How the token is presented. -/
  tokenType : String
  /-- For how many seconds the token is valid. -/
  expiresIn : UInt64
  /-- What a new token can be had for. -/
  refreshToken : Option String
  /-- What the token allows, as far as known. -/
  scopes : List Scope
  deriving DecidableEq

namespace AccessToken

def codec : Json.Codec AccessToken :=
  .record "AccessToken"
    (.cons "access_token" .text none <|
      .cons "token_type" .text none <|
      .cons "expires_in" (.natural "u64" (Nat.pow 2 64)) none <|
      .cons "refresh_token" (.optional .text) (some none) <|
      .cons "scope"
        (.converted "a string" (fun text ↦ .ok (Scope.readList text))
          fun scopes ↦ .string (Scope.join scopes))
        (some []) .nil)
    (fun (accessToken, tokenType, expiresIn, refreshToken, scopes, ()) ↦
      ⟨accessToken, tokenType, UInt64.ofNat expiresIn, refreshToken, scopes⟩)
    (fun t ↦ (t.accessToken, t.tokenType, t.expiresIn.toNat, t.refreshToken, t.scopes, ()))

/-- For how long the token is valid. -/
def lifetime (t : AccessToken) : Duration := .ofSeconds t.expiresIn

/-- The header that presents the token. -/
def header (t : AccessToken) : Header :=
  ⟨"Authorization", t.tokenType ++ " " ++ t.accessToken⟩

end AccessToken

/-- What a token is given for. -/
inductive Grant where
  /-- A code that a user came back with, and where it was sent to. -/
  | exchange (code : String) (redirectUri : Url)
  | refresh (token : String)
  /-- The application itself, without a user. -/
  | alone (scopes : List Scope)

namespace Grant

/-- The parameters of a grant, in their order. -/
def pairs : Grant → List (String × String)
  | exchange code redirectUri =>
    [("grant_type", "authorization_code"), ("code", code), ("redirect_uri", redirectUri.text)]
  | refresh token => [("grant_type", "refresh_token"), ("refresh_token", token)]
  | alone scopes => [("grant_type", "client_credentials"), ("scope", Scope.join scopes)]

def body (g : Grant) : Body := .form (String.ofList (Form.encode g.pairs))

/-- The grant under the given credentials, as it shows inside a program. -/
def label (c : Credentials) : Grant → String
  | exchange code redirectUri =>
    "ExchangeCode \x7b credentials: " ++ c.label ++ ", code: " ++ Quoted.quote code
      ++ ", redirect_uri: " ++ redirectUri.label ++ " \x7d"
  | refresh token =>
    "RefreshToken \x7b credentials: " ++ c.label ++ ", refresh_token: " ++ Quoted.quote token
      ++ " \x7d"
  | alone scopes =>
    "ClientCredentialsGrant \x7b credentials: " ++ c.label ++ ", scopes: ["
      ++ ", ".intercalate (scopes.map Scope.label) ++ "] \x7d"

end Grant

/-- Where tokens are given. -/
def tokenUrl : String := "https://discord.com/api/v10/oauth2/token"

/-- The request for a token. -/
def tokenRequest (c : Credentials) (g : Grant) : Request AccessToken where
  route := ⟨.post, tokenUrl⟩
  body := g.body
  headers := [c.header]
  requiresAuth := false
  decode := decodeJson AccessToken.codec
  label := g.label c

end Errand.OAuth
