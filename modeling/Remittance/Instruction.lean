import Remittance.Text.CodePoint

namespace Remittance

inductive Verb
  | debit
  | credit
deriving Repr, DecidableEq

namespace Verb

def keyword : Verb → Text
  | debit => "DEBIT"
  | credit => "CREDIT"

def all : List Verb := [debit, credit]

def ofKeyword? (token : Text) : Option Verb :=
  all.find? (·.keyword == token)

def counter : Verb → Verb
  | debit => credit
  | credit => debit

def separator : Verb → Text
  | debit => "FROM"
  | credit => "TO"

@[simp] theorem ofKeyword?_keyword (verb : Verb) : ofKeyword? verb.keyword = some verb := by
  cases verb <;> rfl

theorem keyword_of_ofKeyword? {token : Text} {verb : Verb} (h : ofKeyword? token = some verb) :
    verb.keyword = token := by
  simpa using List.find?_some h

end Verb

def accountKeyword : Text := "ACCOUNT"

def forKeyword : Text := "FOR"

def Verb.counterpartyBlock (verb : Verb) : List Text :=
  [verb.counter.keyword, verb.counter.separator, accountKeyword]

structure Instruction where
  kind : Option Text := none
  amount : Option Int := none
  currency : Option Text := none
  debitAccount : Option Text := none
  creditAccount : Option Text := none
  executeBy : Option Text := none
deriving Repr, DecidableEq

namespace Instruction

def empty : Instruction := {}

def accountOf (instruction : Instruction) : Verb → Option Text
  | .debit => instruction.debitAccount
  | .credit => instruction.creditAccount

def withAccount (instruction : Instruction) (verb : Verb) (id : Text) : Instruction :=
  match verb with
  | .debit => { instruction with debitAccount := some id }
  | .credit => { instruction with creditAccount := some id }

@[simp] theorem accountOf_withAccount (instruction : Instruction) (verb : Verb) (id : Text) :
    (instruction.withAccount verb id).accountOf verb = some id := by
  cases verb <;> rfl

@[simp] theorem accountOf_counter_withAccount (instruction : Instruction) (verb : Verb)
    (id : Text) :
    (instruction.withAccount verb id).accountOf verb.counter =
      instruction.accountOf verb.counter := by
  cases verb <;> rfl

end Instruction

end Remittance
