import Errand.Text.Quoted
import Errand.Url.Host

/-!
URLs in parts. `Url.text` writes one down; reading is in `Errand.Url.Reading`. A path is a list of
segments or, in a URL such as `mailto:someone`, a text of its own.
-/

set_option autoImplicit false

namespace Errand

inductive UrlPath where
  | bare (text : String)
  | segments (parts : List String)
  deriving DecidableEq, Repr

structure Url where
  scheme : String
  username : String
  password : String
  /-- A host that may be empty, or none. -/
  host : Option Host
  /-- The port, unless it is the one that goes without saying. -/
  port : Option Nat
  path : UrlPath
  query : Option String
  fragment : Option String
  deriving DecidableEq, Repr

def UrlPath.text : UrlPath → String
  | bare text => text
  | segments parts => String.join (parts.map ("/" ++ ·))

namespace Url

/-- The name and password before the host. -/
def userText (url : Url) : String :=
  let password := if url.password.isEmpty then "" else ":" ++ url.password
  let user := url.username ++ password
  if user.isEmpty then "" else user ++ "@"

/-- What stands between the scheme and the path. Without a host, a path that begins with an empty
segment is marked so that it is not taken for one. -/
def authorityText (url : Url) : String :=
  match url.host, url.path with
  | some host, _ =>
    "//" ++ url.userText ++ host.text ++ url.port.elim "" fun (n : Nat) ↦ ":" ++ toString n
  | none, .segments ("" :: _ :: _) => "/."
  | none, _ => ""

def text (url : Url) : String :=
  url.scheme ++ ":" ++ url.authorityText ++ url.path.text
    ++ url.query.elim "" ("?" ++ ·) ++ url.fragment.elim "" ("#" ++ ·)

/-- Whether no relative URL can be resolved against the URL. -/
def cannotBeBase (url : Url) : Bool :=
  match url.path with
  | .bare _ => true
  | .segments _ => false

def optionLabel : Option String → String
  | none => "None"
  | some text => "Some(" ++ text ++ ")"

/-- A host as it shows inside a descriptor. -/
def hostLabel : Host → String
  | .name text => "Domain(" ++ Quoted.quote text ++ ")"
  | .ipv4 address => "Ipv4(" ++ Host.ipv4Text address.toNat ++ ")"
  | .ipv6 pieces => "Ipv6(" ++ Host.ipv6Label pieces ++ ")"

/-- The URL as it shows inside a descriptor. -/
def label (url : Url) : String :=
  let password := if url.password.isEmpty then none else some url.password
  "Url \x7b scheme: " ++ Quoted.quote url.scheme
    ++ ", cannot_be_a_base: " ++ toString url.cannotBeBase
    ++ ", username: " ++ Quoted.quote url.username
    ++ ", password: " ++ optionLabel (password.map Quoted.quote)
    ++ ", host: " ++ optionLabel ((url.host.filter (!·.isEmpty)).map hostLabel)
    ++ ", port: " ++ optionLabel (url.port.map toString)
    ++ ", path: " ++ Quoted.quote url.path.text
    ++ ", query: " ++ optionLabel (url.query.map Quoted.quote)
    ++ ", fragment: " ++ optionLabel (url.fragment.map Quoted.quote) ++ " \x7d"

end Url

end Errand
