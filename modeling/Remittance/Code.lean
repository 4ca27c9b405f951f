namespace Remittance

inductive Code
  | missingKeyword
  | keywordOrder
  | malformed
  | invalidAmount
  | currencyMismatch
  | unsupportedCurrency
  | insufficientFunds
  | sameAccount
  | accountNotFound
  | invalidAccountId
  | invalidDate
  | executed
  | scheduled
deriving Repr, DecidableEq

inductive Status
  | successful
  | pending
  | failed
deriving Repr, DecidableEq

namespace Status

def text : Status → String
  | successful => "successful"
  | pending => "pending"
  | failed => "failed"

theorem text_injective {a b : Status} (h : a.text = b.text) : a = b := by
  cases a <;> cases b <;> simp_all [text]

end Status

namespace Code

def all : List Code :=
  [missingKeyword, keywordOrder, malformed, invalidAmount, currencyMismatch, unsupportedCurrency,
    insufficientFunds, sameAccount, accountNotFound, invalidAccountId, invalidDate, executed,
    scheduled]

def text : Code → String
  | missingKeyword => "SY01"
  | keywordOrder => "SY02"
  | malformed => "SY03"
  | invalidAmount => "AM01"
  | currencyMismatch => "CU01"
  | unsupportedCurrency => "CU02"
  | insufficientFunds => "AC01"
  | sameAccount => "AC02"
  | accountNotFound => "AC03"
  | invalidAccountId => "AC04"
  | invalidDate => "DT01"
  | executed => "AP00"
  | scheduled => "AP02"

def reason : Code → String
  | missingKeyword => "Missing required keyword(s) in instruction"
  | keywordOrder => "Invalid keyword order in instruction"
  | malformed => "Malformed instruction: unable to parse keywords"
  | invalidAmount => "Amount must be a positive integer"
  | currencyMismatch => "Account currency mismatch"
  | unsupportedCurrency => "Unsupported currency. Only NGN, USD, GBP, and GHS are supported"
  | insufficientFunds => "Insufficient funds in debit account"
  | sameAccount => "Debit and credit accounts cannot be the same"
  | accountNotFound => "Account not found"
  | invalidAccountId => "Invalid account ID format"
  | invalidDate => "Invalid date format. Expect YYYY-MM-DD"
  | executed => "Transaction executed successfully"
  | scheduled => "Transaction scheduled for future execution"

def status : Code → Status
  | executed => .successful
  | scheduled => .pending
  | _ => .failed

def ofText? (text : String) : Option Code :=
  all.find? (·.text == text)

@[simp] theorem ofText?_text (code : Code) : ofText? code.text = some code := by
  cases code <;> decide

theorem text_injective {a b : Code} (h : a.text = b.text) : a = b := by
  have := congrArg ofText? h
  simpa using this

end Code

namespace Status

/-- A text that is no code counts as a failure. -/
def ofCodeText (text : String) : Status :=
  match Code.ofText? text with
  | some code => code.status
  | none => .failed

@[simp] theorem ofCodeText_text (code : Code) : ofCodeText code.text = code.status := by
  simp [ofCodeText]

end Status

end Remittance
