import Remittance.Journal
import Remittance.Text.Field

namespace Remittance

/-- A request as it reaches the service, with the id that is drawn for it in case it brings none. -/
structure Request where
  method : String
  path : String
  headers : List (String × String)
  body : List UInt8
  drawn : String := "<generated>"
deriving Repr, DecidableEq

namespace Request

def lower (text : String) : String :=
  text.map Char.toLower

def header? (request : Request) (name : String) : Option String :=
  (request.headers.find? fun h => lower h.1 == name).map (·.2)

/-- An empty request id counts as none. -/
def id (request : Request) : RequestId :=
  match request.header? "x-request-id" with
  | some text => if text.isEmpty then .drawn request.drawn else .given text
  | none => .drawn request.drawn

/-- The host that the request is for; without a word on it, the one that it reached. -/
def host (request : Request) : String :=
  (request.header? "host").getD "testserver"

/-- Marks that mean something else in an address stand there by their number, and tabs and line
breaks do not stand there at all. -/
def addressLetters : Char → List Char
  | '?' => ['%', '3', 'F']
  | '#' => ['%', '2', '3']
  | '\\' => ['%', '5', 'C']
  | '\t' | '\n' | '\r' => []
  | c => [c]

/-- A path begins with a slash, unless it is empty. -/
def rooted : List Char → List Char
  | [] => []
  | '/' :: path => '/' :: path
  | path => '/' :: path

def addressPath (request : Request) : String :=
  String.ofList ((rooted request.path.toList).flatMap addressLetters)

/-- A media type counts as JSON if it is application/json or ends in +json; parameters and case
do not matter. -/
def isJsonType (mediaType : String) : Bool :=
  let main := Text.trim ((Text.ofString (lower mediaType)).takeWhile (· != ';'))
  match Text.fields (· == '/') main with
  | [kind, subtype] =>
      kind == "application" && (subtype == "json" || (Text.ofString "+json").isSuffixOf subtype)
  | _ => false

def isJson (request : Request) : Bool :=
  ((request.header? "content-type").map isJsonType).getD false

end Request

end Remittance
