import Remittance.Account
import Remittance.Calendar.Written
import Remittance.Code
import Remittance.Instruction
import Remittance.Text.Uppercase

namespace Remittance

/-! Five rules judge an instruction against the accounts it names and a day. The first rule that
yields a code decides. -/

structure Case where
  instruction : Instruction
  debit : Option Account
  credit : Option Account
  today : Date
deriving Repr, DecidableEq

inductive Rule
  | accountsExist
  | currencyAgreement
  | distinctAccounts
  | schedule
  | sufficientFunds
deriving Repr, DecidableEq

namespace Rule

def checkAccountsExist (c : Case) : Option Code :=
  if c.debit.isSome && c.credit.isSome then none else some .accountNotFound

def checkCurrencyAgreement (c : Case) : Except Fault (Option Code) :=
  match c.debit, c.credit with
  | some debit, some credit =>
      let currency := debit.currency.upper
      .ok (if currency = credit.currency.upper ∧ c.instruction.currency = some currency then none
        else some .currencyMismatch)
  | _, _ => .error (.absentAccount "currency")

def checkDistinctAccounts (c : Case) : Option Code :=
  if c.instruction.debitAccount = c.instruction.creditAccount then some .sameAccount else none

/-- An instruction for the day itself or an earlier one is not held back. -/
def checkSchedule (c : Case) : Except Fault (Option Code) :=
  match c.instruction.executeBy with
  | none => .ok none
  | some executeBy =>
      (Date.compareText executeBy c.today).map fun order =>
        if order = .gt then some .scheduled else none

def checkSufficientFunds (c : Case) : Except Fault (Option Code) :=
  match c.debit, c.instruction.amount with
  | none, _ => .error (.absentAccount "balance")
  | some debit, none => .error (.absentAmount debit.balance.isBinary)
  | some debit, some amount =>
      .ok (if debit.balance.isBelow amount then some .insufficientFunds else none)

def check : Rule → Case → Except Fault (Option Code)
  | accountsExist, c => .ok (checkAccountsExist c)
  | currencyAgreement, c => checkCurrencyAgreement c
  | distinctAccounts, c => .ok (checkDistinctAccounts c)
  | schedule, c => checkSchedule c
  | sufficientFunds, c => checkSufficientFunds c

def precedence : List Rule :=
  [accountsExist, currencyAgreement, distinctAccounts, schedule, sufficientFunds]

def firstCode (c : Case) : List Rule → Except Fault (Option Code)
  | [] => .ok none
  | rule :: rules => do
      match ← rule.check c with
      | some code => pure (some code)
      | none => firstCode c rules

end Rule

structure Verdict where
  code : Code
  debit : Option Account
  credit : Option Account
deriving Repr, DecidableEq

namespace Verdict

def cleared (verdict : Verdict) : Bool :=
  verdict.code == .executed

def of (instruction : Instruction) (snapshot : Snapshot) (today : Date) :
    Except Fault Verdict :=
  let c : Case := {
    instruction
    debit := snapshot.lookup? instruction.debitAccount
    credit := snapshot.lookup? instruction.creditAccount
    today }
  (Rule.firstCode c Rule.precedence).map fun code =>
    ⟨code.getD .executed, c.debit, c.credit⟩

end Verdict

end Remittance
