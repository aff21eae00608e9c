import Errand.Chat.Endpoint
import Errand.Chat.Image
import Errand.EventLoop
import Errand.OAuth.Token
import Errand.Program
import Errand.Run
import Errand.Stub
import Errand.Values

/-!
Documents that report on requests and programs, and on what became of them.
-/

set_option autoImplicit false

namespace Errand.Report

variable {V : ValueTypes} {α : Type}

def texts (xs : List String) : Json := .array (xs.map .string)

/-- An optional part; absence is `null`. -/
def optional (write : α → Json) : Option α → Json
  | none => .null
  | some a => write a

/-- Whole seconds and the nanoseconds beyond them. -/
def duration (d : Duration) : Json := .array [.nat d.seconds, .nat d.subsecond]

def header (h : Header) : Json := texts [h.name, h.value]

def bodyKind : Body → String
  | .empty => "empty"
  | .json _ => "json"
  | .form _ => "form"

def body (b : Body) : Json :=
  .ofMembers [("kind", .string (bodyKind b)), ("content_type", .ofText? b.contentType?),
    ("text", .string b.text)]

/-- The members of the report on a request. -/
def requestMembers (r : Request α) : List (String × Json) :=
  [("method", .string r.route.method.name), ("uri", .string r.route.uri),
    ("route", .string r.route.text), ("body", body r.body),
    ("headers", .array (r.headers.map header)), ("requires_auth", .bool r.requiresAuth)]

def request (r : Request α) : Json := .ofMembers (requestMembers r)

/-- The members of the report on a response. -/
def responseMembers (r : Response) : List (String × Json) :=
  [("status", .nat r.status.toNat), ("is_success", .bool r.isSuccess), ("text", .string r.text),
    ("body", .string (Hex.text r.body)), ("retry_after", optional duration r.retryAfter?),
    ("global", .bool r.isGlobalLimit)]

def failureKind : Failure → String
  | .http .. => "http"
  | .rateLimited .. => "rate_limited"
  | .decode _ => "decode"
  | .dropped _ => "dropped"

/-- What is particular to a kind of failure. -/
def failureMembers : Failure → List (String × Json)
  | .http status message => [("status", .nat status.toNat), ("message", .string message)]
  | .rateLimited everywhere retryAfter =>
    [("global", .bool everywhere), ("retry_after", optional duration retryAfter)]
  | .decode error => [("message", .string error.message)]
  | .dropped reason => [("message", .string reason)]

def failure (cause : Failure) : Json :=
  .ofMembers (("kind", .string (failureKind cause)) :: ("display", .string cause.text)
    :: failureMembers cause)

def answer (value : α → Json) : Answer α → Json
  | .success a => .object [("success", value a)]
  | .filtered => .string "filtered"
  | .failure cause => .object [("failure", failure cause)]

def reply (value : Payload V → Json) (r : Reply V) : Json :=
  .ofMembers [("ticket", .nat r.ticket.number), ("answer", answer value r.answer)]

def runErrorMembers : RunError FlowError → List (String × Json)
  | .rejected ticket cause =>
    [("kind", .string "rejected"), ("ticket", .nat ticket.number), ("failure", failure cause)]
  | .dispatch source => [("kind", .string "dispatch"), ("source", .string source.text)]
  | .collect source => [("kind", .string "collect"), ("source", .string source.text)]
  | .desynchronized expected received =>
    [("kind", .string "desynchronized"), ("expected", .nat expected.number),
      ("received", .nat received.number)]
  | .mistyped => [("kind", .string "mistyped")]

def runError (e : RunError FlowError) : Json :=
  .ofMembers (("display", .string e.text) :: ("terminal", .bool e.isTerminal)
    :: runErrorMembers e)

/-- What a service was asked, and when. -/
def wireEntry (entry : Stub.Entry V) : Json :=
  .ofMembers (("at_ms", .nat entry.tick) :: ("ticket", .nat entry.submission.ticket.number)
    :: requestMembers entry.submission.request)

/-- What a service was asked, in short. -/
def wireRoute (entry : Stub.Entry V) : Json :=
  .array [.nat entry.tick, .nat entry.submission.ticket.number,
    .string entry.submission.route.text]

/-- An item of a stream. -/
def item (write : α → Json) : Except (RunError FlowError) α → Json
  | .ok a => .object [("value", write a)]
  | .error e => .object [("err", runError e)]

/-- What came of a call on a flow. -/
def outcome (write : α → Json) : Except FlowError α → Json
  | .ok a => write a
  | .error e => .object [("err", .string e.text)]

def strategy : Retry.Strategy → Json
  | .retryAfter delay => duration delay
  | .fail => .string "fail"

def event (e : Event) : Json :=
  .ofMembers (("level", .string e.level) :: ("message", .string e.message)
    :: e.fields.map fun (name, text) ↦ (name, .string text))

def token (t : OAuth.AccessToken) : Json :=
  .ofMembers [("access_token", .string t.accessToken), ("token_type", .string t.tokenType),
    ("expires_in", duration t.lifetime), ("refresh_token", .ofText? t.refreshToken),
    ("scopes", texts (t.scopes.map OAuth.Scope.token)), ("header", header t.header)]

/-! ### Programs -/

def sequence (first : Json) (steps : Nat) : Json :=
  .object [("sequence",
    .ofMembers [("first", first), ("len", .nat steps), ("is_empty", .bool (steps = 0))])]

mutual

/-- The shape of a plan; its values do not show. -/
def plan {S : Type} : Plan V S → Json
  | .done _ => .object [("done", .string "payload")]
  | .empty => .string "empty"
  | .submit r => .object [("submit", .string r.route.text)]
  | .sequence first steps => sequence (plan first) steps.length
  | .concat parts => .object [("concat", .array (plans parts))]
  | .mistyped => .string "mistyped"

def plans {S : Type} : List (Plan V S) → List Json
  | [] => []
  | p :: parts => plan p :: plans parts

end

mutual

/-- The shape of a program for documents. -/
def program : Program V Json → Json
  | .done v => .object [("done", v)]
  | .empty => .string "empty"
  | .submit r => .object [("submit", .string r.route.text)]
  | .sequence first steps => sequence (plan first) steps.length
  | .concat parts => .object [("concat", .array (programs parts))]

def programs : List (Program V Json) → List Json
  | [] => []
  | p :: parts => program p :: programs parts

end

/-! ### Requests for documents -/

def endpoint (e : Chat.Endpoint) : Request Json := e.request.mapResponse e.writeResult

def image (i : Chat.Image) : Request Json :=
  i.request.mapResponse fun bytes ↦ .string (Hex.text bytes)

def tokenRequest (c : OAuth.Credentials) (g : OAuth.Grant) : Request Json :=
  (OAuth.tokenRequest c g).mapResponse token

end Errand.Report
