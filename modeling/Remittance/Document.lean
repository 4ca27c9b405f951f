import Remittance.Json
import Remittance.Matcher
import Remittance.Result

namespace Remittance

namespace Json

def text? : Option Text → Json :=
  ofOption string

end Json

def Balance.toJson : Balance → Json
  | whole n => .whole n
  | binary x => .binary x

def Account.toJson (account : Account) : Json :=
  .object [
    ("id", .string account.id),
    ("balance", account.balance.toJson),
    ("currency", .string account.currency)]

def Instruction.members (instruction : Instruction) : List (Text × Json) := [
  ("type", Json.text? instruction.kind),
  ("amount", Json.ofOption .whole instruction.amount),
  ("currency", Json.text? instruction.currency),
  ("debit_account", Json.text? instruction.debitAccount),
  ("credit_account", Json.text? instruction.creditAccount),
  ("execute_by", Json.text? instruction.executeBy)]

def Instruction.toJson (instruction : Instruction) : Json :=
  .object instruction.members

def Code.toJson (code : Code) : Json :=
  .string code.text

/-- Whoever reads the document may not know numbers that are not finite; these become null. -/
def Balance.toFiniteJson (balance : Balance) : Json :=
  if balance.isFinite then balance.toJson else .null

def View.toJsonWith (write : Balance → Json) (view : View) : Json :=
  .object [
    ("id", .string view.id),
    ("balance", write view.balance),
    ("balance_before", write view.balanceBefore),
    ("currency", .string view.currency)]

def Result.membersWith (write : Balance → Json) (result : Result) : List (Text × Json) := [
  ("status", .string result.status.text),
  ("status_reason", .string result.reason),
  ("status_code", result.code.toJson),
  ("accounts", .array (result.views.map (View.toJsonWith write)))]

def Result.toJsonWith (write : Balance → Json) (result : Result) : Json :=
  .object (result.instruction.members ++ result.membersWith write)

def View.toJson : View → Json :=
  View.toJsonWith Balance.toJson

def Result.toJson : Result → Json :=
  Result.toJsonWith Balance.toJson

end Remittance
