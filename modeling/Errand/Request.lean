import Errand.Json.Codec
import Errand.Response
import Errand.Route

/-!
Requests as data: where a call goes, what it carries, and how its successful response becomes a
value. `mapResponse` and `filterResponse` change the reading of the response and leave the call
alone.
-/

set_option autoImplicit false

namespace Errand

inductive Body where
  | empty
  | json (text : String)
  | form (text : String)
  deriving DecidableEq, Repr

namespace Body

/-- The content type a body is sent with. -/
def contentType? : Body → Option String
  | empty => none
  | json _ => some "application/json"
  | form _ => some "application/x-www-form-urlencoded"

def text : Body → String
  | empty => ""
  | json s | form s => s

/-- The bytes sent. -/
def bytes (b : Body) : List UInt8 := Utf8.encode b.text

end Body

structure Header where
  name : String
  value : String
  deriving DecidableEq, Repr

/-- Why a successful response could not be read. -/
inductive DecodeError where
  | malformed (fault : Json.Fault)
  | emptyImage
  | other (message : String)

namespace DecodeError

def message : DecodeError → String
  | malformed fault => fault.message
  | emptyImage => "image response had no body"
  | other message => message

def text (e : DecodeError) : String := "could not decode response: " ++ e.message

end DecodeError

/-- One call to the service. Reading a response may also find it fine and of no value. -/
structure Request (α : Type) where
  route : Route
  body : Body := .empty
  headers : List Header := []
  requiresAuth : Bool := true
  decode : Response → Except DecodeError (Option α)
  /-- The request as it shows inside a program. -/
  label : String

/-- Reads the body of a response as JSON. -/
def decodeJson {α : Type} (codec : Json.Codec α) (r : Response) : Except DecodeError (Option α) :=
  match Json.decode codec r.body with
  | .ok a => .ok (some a)
  | .error fault => .error (.malformed fault)

namespace Request

variable {α β : Type}

/-- Applies a function to the value of the response. -/
def mapResponse (r : Request α) (f : α → β) : Request β where
  route := r.route
  body := r.body
  headers := r.headers
  requiresAuth := r.requiresAuth
  decode response := (r.decode response).map fun value ↦ value.map f
  label := "MapResponse \x7b request: " ++ r.label ++ " \x7d"

/-- Discards a response whose value does not satisfy a predicate. -/
def filterResponse (r : Request α) (p : α → Bool) : Request α where
  route := r.route
  body := r.body
  headers := r.headers
  requiresAuth := r.requiresAuth
  decode response := (r.decode response).map fun value ↦ value.filter p
  label := "FilterResponse \x7b request: " ++ r.label ++ " \x7d"

end Request

end Errand
