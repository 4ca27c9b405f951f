import Remittance.Document
import Remittance.Journal
import Remittance.Payload

namespace Remittance

inductive Content
  | json (value : Json)
  | text (text : String)
  | lines (lines : List String)
deriving Repr, BEq

structure Response where
  status : Nat
  contentType : Option String
  content : Content
  allow : Option String := none
  location : Option String := none
  requestId : Option RequestId := none
deriving Repr, BEq

namespace Response

def json (status : Nat) (value : Json) : Response :=
  { status, contentType := some "application/json", content := .json value }

def detail (status : Nat) (text : String) : Response :=
  json status (.object [("detail", .string text)])

/-- A page that the framework writes about the service, told by its title. -/
def page (title : String) : Response :=
  { status := 200, contentType := some "text/html; charset=utf-8", content := .text title }

/-- Besides letters and digits, the marks that an address is sent with as they are. -/
def addressMarks : List Char :=
  "_.-~:/%#?=@[]!$&'()*+,;".toList

/-- What cannot stand in an address is sent by the numbers of its bytes. -/
def sendable (address : String) : String :=
  String.ofList (address.toList.flatMap fun c =>
    if c.isAlphanum || addressMarks.contains c then [c]
    else (String.utf8EncodeChar c).flatMap fun byte =>
      '%' :: (Text.hex 2 byte.toNat).map Char.toUpper)

def redirect (address : String) : Response :=
  { status := 307, contentType := none, content := .text "", location := some (sendable address) }

def internalError : Response :=
  { status := 500
    contentType := some "text/plain; charset=utf-8"
    content := .text "Internal Server Error" }

/-- Half a surrogate pair cannot be sent. -/
def unencodable? (value : Json) : Option Fault :=
  (value.texts.findSome? Text.surrogateRun?).map fun run => .unencodable run.1 run.2

def ofResult (result : Result) : Except Fault Response :=
  let value := .object [
    ("message", .string result.reason),
    ("data", result.toJsonWith Balance.toFiniteJson)]
  match unencodable? value with
  | some fault => .error fault
  | none => .ok (json (if result.status = .failed then 400 else 200) value)

def ofErrors (errors : List PayloadError) : Response :=
  json 400
    (.object [
      ("message", .string "Invalid request payload"),
      ("errors", .array (errors.map PayloadError.toJson))])

end Response

end Remittance
