namespace Remittance

inductive Route
  | instructions
  | health
  | metrics
  | description
  | docs
  | docsReturn
  | reference
deriving Repr, DecidableEq

namespace Route

def all : List Route :=
  [description, docs, docsReturn, reference, health, metrics, instructions]

def path : Route → String
  | instructions => "/payment-instructions"
  | health => "/health"
  | metrics => "/metrics"
  | description => "/openapi.json"
  | docs => "/docs"
  | docsReturn => "/docs/oauth2-redirect"
  | reference => "/redoc"

def methods : Route → List String
  | instructions => ["POST"]
  | health => ["GET"]
  | metrics => ["GET"]
  | _ => ["GET", "HEAD"]

/-- A line break at the end of a path is overlooked. -/
def ofPath? (path : String) : Option Route :=
  all.find? fun route => path == route.path || path == route.path.push '\n'

/-- A path with slashes at its end is sent on to the path without them, if that is a route. -/
def redirect? (path : String) : Option String :=
  if path.endsWith "/" && path != "/" then
    let shorter := String.ofList (path.toList.reverse.dropWhile (· == '/')).reverse
    (ofPath? shorter).map fun _ => shorter
  else none

@[simp] theorem ofPath?_path (route : Route) : ofPath? route.path = some route := by
  cases route <;> decide

end Route

end Remittance
