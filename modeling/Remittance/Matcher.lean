import Remittance.Code
import Remittance.Instruction
import Remittance.Reading
import Remittance.Token

namespace Remittance

/-! The matcher reads an instruction of either layout,

    DEBIT amount currency … FROM ACCOUNT id … FOR CREDIT TO ACCOUNT id
    CREDIT amount currency … TO ACCOUNT id … FOR DEBIT FROM ACCOUNT id

one stage per role of a token. A stage knows what the stages before it found. -/

inductive Stage
  | verb
  | amount (verb : Verb)
  | currency (verb : Verb)
  | separators (verb : Verb)
  | firstKeyword (verb : Verb) (separatorAt forAt : Nat)
  | firstId (verb : Verb) (separatorAt forAt : Nat)
  | counterparty (verb : Verb) (forAt : Nat)
  | secondId (verb : Verb) (forAt : Nat)
  | done
  | failed (code : Code)
deriving Repr, DecidableEq

namespace Stage

def isFinal : Stage → Bool
  | done => true
  | failed _ => true
  | _ => false

def failure? : Stage → Option Code
  | failed code => some code
  | _ => none

end Stage

structure Matcher where
  stage : Stage := .verb
  instruction : Instruction := {}
  separatorAt : Option Nat := none
  forAt : Option Nat := none
deriving Repr, DecidableEq

/-- What was read, and the code of the failure if the matcher stopped early. -/
structure Match where
  instruction : Instruction
  failure : Option Code
deriving Repr, DecidableEq

namespace Matcher

def start : Matcher := {}

def enter (matcher : Matcher) (stage : Stage) : Matcher :=
  { matcher with stage }

def fail (matcher : Matcher) (code : Code) : Matcher :=
  matcher.enter (.failed code)

def readVerb (tokens : Tokens) (executeBy : Option Text) (matcher : Matcher) : Matcher :=
  match tokens.capitals.head?.bind Verb.ofKeyword? with
  | none => matcher.fail .malformed
  | some verb =>
      let named := { matcher with
        instruction := { matcher.instruction with kind := some verb.keyword, executeBy } }
      if tokens.capitals.length < 3 then named.fail .missingKeyword
      else named.enter (.amount verb)

def readAmount (tokens : Tokens) (verb : Verb) (matcher : Matcher) : Except Fault Matcher :=
  match tokens.written[1]? with
  | none => .ok (matcher.fail .invalidAmount)
  | some token =>
      match Token.readAmount token with
      | .error fault => .error fault
      | .ok none => .ok (matcher.fail .invalidAmount)
      | .ok (some amount) =>
          .ok { matcher with
            stage := .currency verb
            instruction := { matcher.instruction with amount := some amount } }

/-- The currency is kept in capitals, supported or not. -/
def readCurrency (tokens : Tokens) (verb : Verb) (matcher : Matcher) : Except Fault Matcher :=
  match tokens.written[2]? with
  | none => .error .absentToken
  | some token =>
      let named := { matcher with
        instruction := { matcher.instruction with currency := some token.upper } }
      .ok (if Token.isCurrency token.upper then named.enter (.separators verb)
        else named.fail .unsupportedCurrency)

/-- The separator must follow the currency, and FOR the separator. -/
def findSeparators (tokens : Tokens) (verb : Verb) (matcher : Matcher) : Matcher :=
  let separatorAt := tokens.capitals.idxOf? verb.separator
  let forAt := tokens.capitals.idxOf? forKeyword
  let placed := { matcher with separatorAt, forAt }
  match separatorAt, forAt with
  | some s, some f =>
      if 2 < s ∧ s < f then placed.enter (.firstKeyword verb s f) else placed.fail .missingKeyword
  | _, _ => placed.fail .missingKeyword

def readFirstKeyword (tokens : Tokens) (verb : Verb) (s f : Nat) (matcher : Matcher) : Matcher :=
  if tokens.capitals[s + 1]? = some accountKeyword then matcher.enter (.firstId verb s f)
  else matcher.fail .keywordOrder

def readId (tokens : Tokens) (verb : Verb) (place : Nat) (next : Stage) (matcher : Matcher) :
    Matcher :=
  match tokens.written[place]? with
  | none => matcher.fail .invalidAccountId
  | some id =>
      if Token.isAccountId id then
        { matcher with stage := next, instruction := matcher.instruction.withAccount verb id }
      else matcher.fail .invalidAccountId

def readCounterparty (tokens : Tokens) (verb : Verb) (f : Nat) (matcher : Matcher) : Matcher :=
  if verb.counterpartyBlock.isPrefixOf (tokens.capitals.drop (f + 1)) then
    matcher.enter (.secondId verb f)
  else matcher.fail .keywordOrder

def step (tokens : Tokens) (executeBy : Option Text) (matcher : Matcher) :
    Except Fault Matcher :=
  match matcher.stage with
  | .verb => .ok (matcher.readVerb tokens executeBy)
  | .amount verb => matcher.readAmount tokens verb
  | .currency verb => matcher.readCurrency tokens verb
  | .separators verb => .ok (matcher.findSeparators tokens verb)
  | .firstKeyword verb s f => .ok (matcher.readFirstKeyword tokens verb s f)
  | .firstId verb s f => .ok (matcher.readId tokens verb (s + 2) (.counterparty verb f))
  | .counterparty verb f => .ok (matcher.readCounterparty tokens verb f)
  | .secondId verb f => .ok (matcher.readId tokens verb.counter (f + 4) .done)
  | .done => .ok matcher
  | .failed _ => .ok matcher

/-- The matchers after each step, until one is final. -/
def visited (tokens : Tokens) (executeBy : Option Text) :
    Nat → Matcher → Except Fault (List Matcher)
  | 0, _ => .ok []
  | steps + 1, matcher =>
      if matcher.stage.isFinal then .ok []
      else do
        let next ← matcher.step tokens executeBy
        let rest ← visited tokens executeBy steps next
        pure (next :: rest)

def run (tokens : Tokens) (executeBy : Option Text) : Nat → Matcher → Except Fault Matcher
  | 0, matcher => .ok matcher
  | steps + 1, matcher =>
      if matcher.stage.isFinal then .ok matcher
      else do
        let next ← matcher.step tokens executeBy
        run tokens executeBy steps next

/-- There are eight stages before the end. -/
def stepLimit : Nat := 8

def trace (tokens : Tokens) (executeBy : Option Text) : Except Fault (List Matcher) :=
  visited tokens executeBy stepLimit start

def finish (tokens : Tokens) (executeBy : Option Text) : Except Fault Matcher :=
  run tokens executeBy stepLimit start

end Matcher

def Match.ofTokens (tokens : Tokens) (executeBy : Option Text) : Except Fault Match :=
  (Matcher.finish tokens executeBy).map fun matcher =>
    ⟨matcher.instruction, matcher.stage.failure?⟩

end Remittance
