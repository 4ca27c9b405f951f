import Remittance.Document
import Remittance.Fault

namespace Remittance

inductive Level
  | info
  | warning
  | error
deriving Repr, DecidableEq

namespace Level

def severity : Level → Nat
  | info => 20
  | warning => 30
  | error => 40

def text : Level → String
  | info => "INFO"
  | warning => "WARNING"
  | error => "ERROR"

/-- The names a threshold may have; nothing is less severe than the lowest. -/
def thresholds : List (String × Nat) := [
  ("CRITICAL", 50), ("FATAL", 50), ("ERROR", 40), ("WARN", 30), ("WARNING", 30), ("INFO", 20),
  ("DEBUG", 10), ("NOTSET", 0)]

def threshold (name : String) : Except Fault Nat :=
  match thresholds.lookup name with
  | some severity => .ok severity
  | none => .error (.unknownLevel name)

end Level

structure Settings where
  serviceName : String := "payment-instructions"
  logLevel : String := "INFO"
deriving Repr, DecidableEq

namespace Settings

def lookup? (environment : List (String × String)) (name : String) : Option String :=
  (environment.reverse.find? (·.1.map Char.toLower == name)).map (·.2)

def ofEnvironment (environment : List (String × String)) : Settings :=
  let standard : Settings := {}
  { serviceName := (lookup? environment "service_name").getD standard.serviceName
    logLevel := (lookup? environment "log_level").getD standard.logLevel }

end Settings

inductive RequestId
  | given (text : String)
  | drawn (text : String)
deriving Repr, DecidableEq

namespace RequestId

def text : RequestId → String
  | given text => text
  | drawn text => text

end RequestId

inductive Event
  | processed (requestId : RequestId) (status code : String) (kind : Option Text)
      (amount : Option Int) (currency : Option Text) (milliseconds : Option Int)
  | rejected (requestId : RequestId) (path : String)
  | unexpected (fault : Fault)
deriving Repr, DecidableEq

namespace Event

def ofResult (requestId : RequestId) (result : Result) : Event :=
  processed requestId result.status.text result.code.text result.instruction.kind
    result.instruction.amount result.instruction.currency none

def level : Event → Level
  | processed _ status _ _ _ _ _ => if status = Status.failed.text then .warning else .info
  | rejected _ _ => .warning
  | unexpected _ => .error

def message : Event → String
  | processed _ _ _ _ _ _ _ => "Instruction processed"
  | rejected _ _ => "Invalid request payload"
  | unexpected fault => "Unexpected error while processing instruction: " ++ fault.message

def details : Event → List (Text × Json)
  | processed requestId status code kind amount currency milliseconds => [
      ("request_id", .string requestId.text),
      ("step", .string "instruction_complete"),
      ("status", .string status),
      ("status_code", .string code),
      ("transaction_type", Json.text? kind),
      ("amount", Json.ofOption .whole amount),
      ("currency", Json.text? currency),
      ("duration_ms", Json.ofOption .whole milliseconds)]
  | rejected requestId path => [("request_id", .string requestId.text), ("path", .string path)]
  | unexpected _ => []

def loggerName : String := "root"

def heading (service : String) (event : Event) : List (Text × Json) := [
  ("level", .string event.level.text),
  ("name", .string loggerName),
  ("message", .string event.message),
  ("service", .string service)]

def record (service : String) (event : Event) : Json :=
  .object (event.heading service ++ event.details)

def reaches (threshold : Nat) (event : Event) : Bool :=
  threshold ≤ event.level.severity

/-- A numeral too long to be read is too long to be written, and the event goes unrecorded. -/
def isWritable (event : Event) : Bool :=
  event.details.all fun detail =>
    match detail.2 with
    | .whole n => n.natAbs < Nat.pow 10 digitLimit
    | _ => true

def records (service : String) (threshold : Nat) (events : List Event) : List Json :=
  (events.filter fun event => event.reaches threshold && event.isWritable).map (record service)

@[simp] theorem isWritable_unexpected (fault : Fault) : (unexpected fault).isWritable := rfl

theorem level_ofResult (requestId : RequestId) (result : Result) :
    (ofResult requestId result).level =
      if result.status = .failed then .warning else .info := by
  simp only [ofResult, level]
  cases result.status <;> decide

end Event

end Remittance
