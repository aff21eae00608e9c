import Errand.Text.Quoted

/-!
Where a request goes: a method and an address.
-/

set_option autoImplicit false

namespace Errand

inductive Method where
  | get
  | post
  | put
  | patch
  | delete
  deriving DecidableEq, Repr

def Method.all : List Method := [get, post, put, patch, delete]

/-- The name of a method on the wire. -/
def Method.name : Method → String
  | get => "GET"
  | post => "POST"
  | put => "PUT"
  | patch => "PATCH"
  | delete => "DELETE"

/-- A method as it shows inside a route. -/
def Method.label : Method → String
  | get => "Get"
  | post => "Post"
  | put => "Put"
  | patch => "Patch"
  | delete => "Delete"

/-- The method with the given name. -/
def Method.named? (name : String) : Option Method := all.find? (·.name = name)

structure Route where
  method : Method
  uri : String
  deriving DecidableEq, Repr

def Route.text (route : Route) : String := route.method.name ++ " " ++ route.uri

/-- The route as it shows inside a journal. -/
def Route.label (route : Route) : String :=
  "Route \x7b method: " ++ route.method.label ++ ", uri: " ++ Quoted.quote route.uri ++ " \x7d"

end Errand
