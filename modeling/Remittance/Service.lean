import Remittance.Exposition
import Remittance.Json.Reader
import Remittance.Processing
import Remittance.Service.Request
import Remittance.Service.Response
import Remittance.Service.Route

namespace Remittance

structure Answer where
  response : Response
  events : List Event := []
  raised : Option Fault := none
deriving Repr, BEq

namespace Service

def title : String := "Payment Instructions Service"

def summary : String := "Parses, validates and executes free-text payment instructions"

def version : String := "0.1.0"

def expositionType : String := "text/plain; version=1.0.0; charset=utf-8"

inductive Unread
  | refused
  | rejected (errors : List PayloadError)
deriving Repr, DecidableEq

def readJson (request : Request) : Except Unread Json :=
  match Json.ofBytes (request.body.map UInt8.toNat) with
  | .ok value => .ok value
  | .error .refused => .error .refused
  | .error (.malformed offset) =>
      .error (.rejected [⟨Payload.body ++ [.index offset], .invalidJson⟩])

/-- Only an empty body is missing. The framework tells a null from that, and refuses it as a value
that is no object; nor is a body that is not declared as JSON. -/
def readPayload (request : Request) : Except Unread Payload :=
  if request.body.isEmpty then .error (.rejected [⟨Payload.body, .missing⟩])
  else if request.isJson then do
    let json ← readJson request
    (Payload.ofJson json).mapError .rejected
  else .error (.rejected [⟨Payload.body, .notObject⟩])

def process (payload : Payload) (requestId : RequestId) (today : Date) (metrics : Metrics) :
    Answer × Metrics :=
  let (result, fault) := Remittance.process payload.accounts payload.instruction today
  let unexpected := fault.toList.map Event.unexpected
  let failed := fun events raised =>
    { response := Response.internalError, events, raised := some raised : Answer }
  match metrics.recordResult result with
  | (recorded, some raised) => (failed unexpected raised, recorded)
  | (recorded, none) =>
      let events := unexpected ++ [Event.ofResult requestId result]
      match Response.ofResult result with
      | .ok response => ({ response, events }, recorded)
      | .error raised => (failed events raised, recorded)

def postInstruction (request : Request) (requestId : RequestId) (today : Date)
    (metrics : Metrics) : Answer × Metrics :=
  match readPayload request with
  | .ok payload => process payload requestId today metrics
  | .error .refused =>
      ({ response := Response.detail 400 "There was an error parsing the body" }, metrics)
  | .error (.rejected errors) =>
      ({ response := Response.ofErrors errors
         events := [.rejected requestId request.addressPath] }, metrics)

def health (settings : Settings) : Response :=
  .json 200 (.object [("status", .string "ok"), ("service", .string settings.serviceName)])

def exposition (metrics : Metrics) : Response :=
  { status := 200
    contentType := some expositionType
    content := .lines (Exposition.lines metrics) }

/-- What the service says of itself, of all that its description holds. -/
def description : Json :=
  .object [("info", .object [
    ("title", .string title), ("description", .string summary), ("version", .string version)])]

def serve (settings : Settings) (today : Date) (metrics : Metrics) (request : Request)
    (requestId : RequestId) : Route → Answer × Metrics
  | .instructions => postInstruction request requestId today metrics
  | .health => ({ response := health settings }, metrics)
  | .metrics => ({ response := exposition metrics }, metrics)
  | .description => ({ response := .json 200 description }, metrics)
  | .docs => ({ response := .page (title ++ " - Swagger UI") }, metrics)
  | .docsReturn => ({ response := .page "Swagger UI: OAuth2 Redirect" }, metrics)
  | .reference => ({ response := .page (title ++ " - ReDoc") }, metrics)

def dispatch (settings : Settings) (today : Date) (metrics : Metrics) (request : Request)
    (requestId : RequestId) : Answer × Metrics :=
  match Route.ofPath? request.path with
  | some route =>
      if request.method ∈ route.methods then
        serve settings today metrics request requestId route
      else
        ({ response := { Response.detail 405 "Method Not Allowed" with
             allow := some (", ".intercalate route.methods) } }, metrics)
  | none =>
      match Route.redirect? request.path with
      | some path =>
          ({ response := Response.redirect ("http://" ++ request.host ++ path) }, metrics)
      | none => ({ response := Response.detail 404 "Not Found" }, metrics)

def endpoint (request : Request) : String :=
  ((Route.ofPath? request.path).map Route.path).getD request.addressPath

/-- The answer to a request that goes by an id. Unless a fault was raised, the response carries the
id and the request is counted. -/
def respond (settings : Settings) (today : Date) (metrics : Metrics) (request : Request)
    (requestId : RequestId) : Answer × Metrics :=
  let (answer, served) := dispatch settings today metrics request requestId
  match answer.raised with
  | some _ => (answer, served)
  | none =>
      ({ answer with response := { answer.response with requestId := some requestId } },
        served.countRequest request.method (endpoint request) (toString answer.response.status))

def handle (settings : Settings) (today : Date) (metrics : Metrics) (request : Request) :
    Answer × Metrics :=
  respond settings today metrics request request.id

end Service

end Remittance
