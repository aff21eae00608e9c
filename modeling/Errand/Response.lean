import Errand.Duration
import Errand.Binary64.Reading
import Errand.Text.Blank
import Errand.Text.Utf8

/-!
What came back from the service: a status, headers and a body. A `retry-after` header asks for a
delay in seconds; one that is no delay is as good as none.
-/

set_option autoImplicit false

namespace Errand

structure Response where
  status : UInt16
  headers : List (String × String)
  body : List UInt8
  deriving DecidableEq

namespace Response

def ok (body : List UInt8) : Response := ⟨200, [], body⟩

/-- Statuses from 200 to 299. -/
def isSuccess (r : Response) : Bool := 200 ≤ r.status && r.status < 300

/-- Equality of texts up to the case of ASCII letters. -/
def sameName (a b : String) : Bool := a.toList.map Char.toLower == b.toList.map Char.toLower

/-- The value of the first header with the given name. -/
def header? (r : Response) (name : String) : Option String :=
  (r.headers.find? (sameName ·.1 name)).map (·.2)

/-- The body as text, with replacement characters for what is not UTF-8. -/
def text (r : Response) : String := Utf8.decodeLossy r.body

def trimmed (value : String) : String := String.ofList (Blank.trim value.toList)

/-- The delay asked for, if it can be waited for. -/
def retryAfter? (r : Response) : Option Duration := do
  let value ← r.header? "retry-after"
  let seconds ← Binary64.read? (trimmed value)
  Duration.ofSeconds? seconds

/-- Whether a rate limit applies to every route. -/
def isGlobalLimit (r : Response) : Bool :=
  ((r.header? "x-ratelimit-global").map fun value ↦ sameName (trimmed value) "true").getD false

end Response

end Errand
