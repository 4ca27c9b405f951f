import Remittance.Code
import Remittance.Instruction
import Remittance.Ledger
import Remittance.Text.Uppercase

namespace Remittance

structure View where
  id : Text
  balance : Balance
  balanceBefore : Balance
  currency : Text
deriving Repr, DecidableEq

namespace View

def ofAccount (ledger : Ledger) (account : Account) : View :=
  let entry := (ledger.lookup? account.id).getD ⟨account.balance, account.balance⟩
  ⟨account.id, entry.after, entry.before, account.currency.upper⟩

/-- Views of every record with the debit or the credit id, in the order of the snapshot. -/
def ofSnapshot (snapshot : Snapshot) (debitId creditId : Option Text) (ledger : Ledger) :
    List View :=
  (snapshot.filter fun account => debitId == some account.id || creditId == some account.id).map
    (ofAccount ledger)

theorem mem_ofSnapshot_iff {snapshot : Snapshot} {debitId creditId : Option Text}
    {ledger : Ledger} {view : View} :
    view ∈ ofSnapshot snapshot debitId creditId ledger ↔
      ∃ account ∈ snapshot, (debitId = some account.id ∨ creditId = some account.id) ∧
        ofAccount ledger account = view := by
  simp [ofSnapshot, and_assoc]

end View

structure Result where
  instruction : Instruction
  code : Code
  views : List View
deriving Repr, DecidableEq

namespace Result

def of (instruction : Instruction) (code : Code) (snapshot : Snapshot) (ledger : Ledger) : Result :=
  ⟨instruction, code,
    View.ofSnapshot snapshot instruction.debitAccount instruction.creditAccount ledger⟩

def status (result : Result) : Status :=
  result.code.status

def reason (result : Result) : String :=
  result.code.reason

def malformed : Result :=
  ⟨Instruction.empty, .malformed, []⟩

end Result

end Remittance
