import Remittance.Proofs.Matcher.Visits

namespace Remittance

def Instruction.withDate (instruction : Instruction) (executeBy : Option Text) : Instruction :=
  { instruction with executeBy }

def Match.withDate (found : Match) (executeBy : Option Text) : Match :=
  { found with instruction := found.instruction.withDate executeBy }

theorem Stage.Follows.ne_verb {stage next : Stage} (h : Follows stage next) : next ≠ .verb := by
  cases h <;> exact Stage.noConfusion

namespace Matcher

def withDate (matcher : Matcher) (executeBy : Option Text) : Matcher :=
  { matcher with instruction := matcher.instruction.withDate executeBy }

variable {tokens : Tokens} {executeBy date : Option Text} {matcher : Matcher} {verb : Verb}

private theorem readVerb_withDate (executeBy date : Option Text)
    (h : tokens.capitals.head? = some verb.keyword) :
    start.readVerb tokens date = (start.readVerb tokens executeBy).withDate date := by
  simp only [readVerb, h, Option.bind_some, Verb.ofKeyword?_keyword]
  split <;> rfl

private theorem readAmount_withDate (matcher : Matcher) :
    (matcher.withDate date).readAmount tokens verb =
      (matcher.readAmount tokens verb).map (·.withDate date) := by
  unfold readAmount
  cases tokens.written[1]? with
  | none => rfl
  | some token =>
      dsimp only
      rcases Token.readAmount token with fault | _ | amount <;> rfl

private theorem readCurrency_withDate (matcher : Matcher) :
    (matcher.withDate date).readCurrency tokens verb =
      (matcher.readCurrency tokens verb).map (·.withDate date) := by
  unfold readCurrency
  cases tokens.written[2]? with
  | none => rfl
  | some token =>
      dsimp only
      split <;> rfl

private theorem findSeparators_withDate (matcher : Matcher) :
    (matcher.withDate date).findSeparators tokens verb =
      (matcher.findSeparators tokens verb).withDate date := by
  unfold findSeparators
  dsimp only
  split
  · split <;> rfl
  · rfl

private theorem readFirstKeyword_withDate (matcher : Matcher) (s f : Nat) :
    (matcher.withDate date).readFirstKeyword tokens verb s f =
      (matcher.readFirstKeyword tokens verb s f).withDate date := by
  unfold readFirstKeyword
  split <;> rfl

private theorem readId_withDate (matcher : Matcher) (place : Nat) (next : Stage) :
    (matcher.withDate date).readId tokens verb place next =
      (matcher.readId tokens verb place next).withDate date := by
  unfold readId
  cases tokens.written[place]? with
  | none => rfl
  | some id =>
      dsimp only
      split
      · cases verb <;> rfl
      · rfl

private theorem readCounterparty_withDate (matcher : Matcher) (f : Nat) :
    (matcher.withDate date).readCounterparty tokens verb f =
      (matcher.readCounterparty tokens verb f).withDate date := by
  unfold readCounterparty
  split <;> rfl

theorem step_withDate (executeBy : Option Text) (h : matcher.stage ≠ .verb) :
    (matcher.withDate date).step tokens date =
      (matcher.step tokens executeBy).map (·.withDate date) := by
  have hsame : (matcher.withDate date).stage = matcher.stage := rfl
  unfold step
  rw [hsame]
  cases hstage : matcher.stage with
  | verb => exact absurd hstage h
  | amount verb => exact readAmount_withDate matcher
  | currency verb => exact readCurrency_withDate matcher
  | separators verb => exact congrArg Except.ok (findSeparators_withDate matcher)
  | firstKeyword verb s f => exact congrArg Except.ok (readFirstKeyword_withDate matcher s f)
  | firstId verb s f => exact congrArg Except.ok (readId_withDate matcher _ _)
  | counterparty verb f => exact congrArg Except.ok (readCounterparty_withDate matcher f)
  | secondId verb f => exact congrArg Except.ok (readId_withDate matcher _ _)
  | done => rfl
  | failed code => rfl

theorem run_withDate (steps : Nat) (h : matcher.stage ≠ .verb) :
    run tokens date steps (matcher.withDate date) =
      (run tokens executeBy steps matcher).map (·.withDate date) := by
  induction steps generalizing matcher with
  | zero => rfl
  | succ steps ih =>
      have hsame : (matcher.withDate date).stage = matcher.stage := rfl
      cases hfinal : matcher.stage.isFinal with
      | true =>
          rw [run_of_isFinal hfinal, run_of_isFinal (hsame ▸ hfinal)]
          rfl
      | false =>
          rw [run, run, hsame, hfinal, step_withDate executeBy h]
          cases hstep : matcher.step tokens executeBy with
          | error fault => rfl
          | ok next => exact ih (follows_step hfinal hstep).ne_verb

end Matcher

namespace Match

variable {tokens : Tokens}

theorem ofTokens_withDate {verb : Verb} (h : tokens.capitals.head? = some verb.keyword)
    (executeBy date : Option Text) :
    ofTokens tokens date = (ofTokens tokens executeBy).map (·.withDate date) := by
  have hverb := Matcher.readVerb_withDate executeBy date h
  have hafter : (Matcher.start.readVerb tokens executeBy).stage ≠ .verb :=
    Matcher.follows_readVerb.ne_verb
  have hfinish : Matcher.finish tokens date =
      (Matcher.finish tokens executeBy).map (·.withDate date) := by
    calc
      Matcher.finish tokens date
          = Matcher.run tokens date 7 (Matcher.start.readVerb tokens date) := rfl
      _ = (Matcher.run tokens executeBy 7 (Matcher.start.readVerb tokens executeBy)).map
            (·.withDate date) := by
        rw [hverb, Matcher.run_withDate 7 hafter]
  rw [ofTokens, ofTokens, hfinish]
  cases Matcher.finish tokens executeBy <;> rfl

theorem ofTokens_of_unknown (h : ∀ verb : Verb, tokens.capitals.head? ≠ some verb.keyword)
    (executeBy : Option Text) : ofTokens tokens executeBy = .ok ⟨{}, some .malformed⟩ := by
  have hnone : tokens.capitals.head?.bind Verb.ofKeyword? = none := by
    rw [Option.bind_eq_none_iff]
    intro token htoken
    rw [Option.eq_none_iff_forall_ne_some]
    intro verb hverb
    exact h verb (Verb.keyword_of_ofKeyword? hverb ▸ htoken)
  have hread : Matcher.start.readVerb tokens executeBy = Matcher.start.fail .malformed := by
    simp only [Matcher.readVerb, hnone]
  have hfinish : Matcher.finish tokens executeBy = .ok (Matcher.start.fail .malformed) := by
    calc
      Matcher.finish tokens executeBy
          = Matcher.run tokens executeBy 7 (Matcher.start.readVerb tokens executeBy) := rfl
      _ = .ok (Matcher.start.fail .malformed) := by rw [hread, Matcher.run_of_isFinal rfl]
  rw [ofTokens, hfinish]
  rfl

end Match

end Remittance
