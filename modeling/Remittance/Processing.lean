import Remittance.Matcher
import Remittance.Result
import Remittance.Rule

namespace Remittance

def settle (instruction : Instruction) (snapshot : Snapshot) (today : Date) :
    Except Fault Result := do
  let verdict ← Verdict.of instruction snapshot today
  if verdict.cleared then
    match verdict.debit, verdict.credit, instruction.amount with
    | some debit, some credit, some amount =>
        let ledger ← Ledger.transfer debit credit amount
        pure (Result.of instruction .executed snapshot ledger)
    | _, _, _ => throw (.absentAccount "id")
  else
    pure (Result.of instruction verdict.code snapshot [])

def outcome (snapshot : Snapshot) (text : Text) (today : Date) : Except Fault Result := do
  let reading := Reading.ofText text
  let found ← Match.ofTokens reading.tokens reading.clause.executeBy
  match found.failure with
  | some code => pure (Result.of found.instruction code snapshot [])
  | none =>
      let valid ← found.instruction.executeBy.elim (pure true) Date.checkWritten
      if valid then settle found.instruction snapshot today
      else pure (Result.of found.instruction .invalidDate snapshot [])

/-- The result of processing, and the fault if one was caught: then the text counts as malformed. -/
def process (snapshot : Snapshot) (text : Text) (today : Date) : Result × Option Fault :=
  match outcome snapshot text today with
  | .ok result => (result, none)
  | .error fault => (Result.malformed, some fault)

end Remittance
