import Remittance.Proofs.Matcher.Stages
import Remittance.Proofs.Token

namespace Remittance

open Remittance.Text

namespace Matcher

/-! A matcher looks at tokens as they are written in four places. An amount is the same in any
letter case and a currency is put in capitals, so the two ids are what is left. -/

/-- Tokens that are the same in capitals, and written the same where the ids are read: two places
after the separator of their verb, and four after FOR. -/
structure Recased (written other : List Text) : Prop where
  capitals : other.map upper = written.map upper
  firstId : ∀ verb : Verb, (written.map upper).head? = some verb.keyword →
    ∀ s, (written.map upper).idxOf? verb.separator = some s → other[s + 2]? = written[s + 2]?
  secondId : ∀ f, (written.map upper).idxOf? forKeyword = some f →
    other[f + 4]? = written[f + 4]?

variable {written other : List Text} {executeBy : Option Text} {matcher : Matcher} {verb : Verb}

namespace Recased

private theorem ofWritten_eq (h : Recased written other) :
    Tokens.ofWritten other = { Tokens.ofWritten written with written := other } := by
  rw [Tokens.ofWritten, h.capitals]
  rfl

private theorem getElem?_cases (h : Recased written other) (place : Nat) :
    (written[place]? = none ∧ other[place]? = none) ∨ ∃ token recased,
      written[place]? = some token ∧ other[place]? = some recased ∧
        upper recased = upper token := by
  have hsame : other[place]?.map upper = written[place]?.map upper := by
    rw [← List.getElem?_map, ← List.getElem?_map, h.capitals]
  cases htoken : written[place]? with
  | none =>
      rw [htoken, Option.map_none, Option.map_eq_none_iff] at hsame
      exact .inl ⟨rfl, hsame⟩
  | some token =>
      rw [htoken, Option.map_some, Option.map_eq_some_iff] at hsame
      obtain ⟨recased, hrecased, hupper⟩ := hsame
      exact .inr ⟨token, recased, rfl, hrecased, hupper⟩

theorem readAmount (h : Recased written other) (matcher : Matcher) :
    matcher.readAmount (.ofWritten other) verb = matcher.readAmount (.ofWritten written) verb := by
  simp only [Matcher.readAmount, Tokens.written_ofWritten]
  rcases h.getElem?_cases 1 with ⟨habsent, hother⟩ | ⟨token, recased, htoken, hrecased, hupper⟩
  · rw [habsent, hother]
  · rw [htoken, hrecased]
    simp only [Token.readAmount_eq_of_upper_eq hupper]

theorem readCurrency (h : Recased written other) (matcher : Matcher) :
    matcher.readCurrency (.ofWritten other) verb =
      matcher.readCurrency (.ofWritten written) verb := by
  simp only [Matcher.readCurrency, Tokens.written_ofWritten]
  rcases h.getElem?_cases 2 with ⟨habsent, hother⟩ | ⟨token, recased, htoken, hrecased, hupper⟩
  · rw [habsent, hother]
  · rw [htoken, hrecased]
    simp only [hupper]

theorem readId {place : Nat} (h : other[place]? = written[place]?) (next : Stage)
    (matcher : Matcher) :
    matcher.readId (.ofWritten other) verb place next =
      matcher.readId (.ofWritten written) verb place next := by
  simp only [Matcher.readId, Tokens.written_ofWritten, h]

theorem step (h : Recased written other)
    (hjustified : Justified (.ofWritten written) executeBy matcher) :
    matcher.step (.ofWritten other) executeBy = matcher.step (.ofWritten written) executeBy := by
  unfold Matcher.step
  unfold Justified at hjustified
  cases hstage : matcher.stage with
  | verb =>
      rw [h.ofWritten_eq]
      rfl
  | amount verb => exact h.readAmount matcher
  | currency verb => exact h.readCurrency matcher
  | separators verb =>
      rw [h.ofWritten_eq]
      rfl
  | firstKeyword verb s f =>
      rw [h.ofWritten_eq]
      rfl
  | firstId verb s f =>
      rw [hstage] at hjustified
      obtain ⟨amount, currency, hreads, _⟩ := hjustified
      exact congrArg Except.ok (readId (h.firstId verb hreads.keyword s hreads.separator) _ _)
  | counterparty verb f =>
      rw [h.ofWritten_eq]
      rfl
  | secondId verb f =>
      rw [hstage] at hjustified
      obtain ⟨amount, currency, s, firstId, hreads, _⟩ := hjustified
      exact congrArg Except.ok (readId (h.secondId f hreads.forWord) _ _)
  | done => rfl
  | failed code => rfl

theorem run (h : Recased written other) (steps : Nat)
    (hjustified : Justified (.ofWritten written) executeBy matcher) :
    Matcher.run (.ofWritten other) executeBy steps matcher =
      Matcher.run (.ofWritten written) executeBy steps matcher := by
  induction steps generalizing matcher with
  | zero => rfl
  | succ steps ih =>
      rw [Matcher.run, Matcher.run, h.step hjustified]
      cases hstep : matcher.step (.ofWritten written) executeBy with
      | error fault => rfl
      | ok next => simp only [bind, Except.bind, ih (hjustified.step hstep)]

end Recased

end Matcher

/-- Letter case matters in the ids alone. -/
theorem Match.ofTokens_recased {written other : List Text} (h : Matcher.Recased written other)
    (executeBy : Option Text) :
    Match.ofTokens (.ofWritten other) executeBy = Match.ofTokens (.ofWritten written) executeBy := by
  rw [Match.ofTokens, Match.ofTokens, Matcher.finish, Matcher.finish,
    h.run Matcher.stepLimit Matcher.justified_start]

/-- A long s and an i without its dot are recased too, but no id is: with another id, of the same
capitals, the match is another. -/
theorem Match.ofTokens_recased_beyond_ascii :
    let written : List Text :=
      ["debit", "0100", "u\u017fd", "now", "from", "account", "a.B", "for", "cred\u0131t", "to",
        "account", "x"]
    let other (id : Text) : List Text :=
      ["DEBIT", "0100", "USD", "NOW", "From", "Account", id, "For", "CREDIT", "To", "ACCOUNT", "x"]
    Matcher.Recased written (other "a.B") ∧
      ofTokens (.ofWritten (other "a.B")) none = ofTokens (.ofWritten written) none ∧
      ofTokens (.ofWritten written) none = .ok ⟨.ofSecondId .debit none 100 "USD" "a.B" "x", none⟩ ∧
      (other "A.b").map upper = written.map upper ∧
      ofTokens (.ofWritten (other "A.b")) none =
        .ok ⟨.ofSecondId .debit none 100 "USD" "A.b" "x", none⟩ := by
  intro written other
  have hrecased : Matcher.Recased written (other "a.B") := by
    refine ⟨by decide +kernel, ?_, ?_⟩
    · intro verb hverb s hs
      cases verb with
      | debit =>
          have hplace : (written.map upper).idxOf? Verb.debit.separator = some 4 := by
            decide +kernel
          obtain rfl := Option.some.inj (hplace.symm.trans hs)
          decide +kernel
      | credit => exact absurd hverb (by decide +kernel)
    · intro f hf
      have hplace : (written.map upper).idxOf? forKeyword = some 7 := by decide +kernel
      obtain rfl := Option.some.inj (hplace.symm.trans hf)
      decide +kernel
  exact ⟨hrecased, ofTokens_recased hrecased none, by decide +kernel, by decide +kernel,
    by decide +kernel⟩

end Remittance
