import Remittance.Proofs.Matcher.Visits

namespace Remittance

open Remittance.Text

/-! Matching faults at two stages only: on an amount that is too long to be read, and on a third
token that is there in capitals but not as it is written. -/

namespace Matcher

variable {tokens : Tokens} {executeBy : Option Text} {matcher : Matcher} {fault : Fault}

inductive Faults (tokens : Tokens) : Fault → Prop
  | amount {verb : Verb} {token : Text} {fault : Fault} (hreads : ReadsVerb tokens verb)
      (htoken : tokens.written[1]? = some token) (hfault : Token.readAmount token = .error fault) :
      Faults tokens fault
  | currency {verb : Verb} {amount : Nat} (hreads : ReadsAmount tokens verb amount)
      (habsent : tokens.written[2]? = none) : Faults tokens .absentToken

theorem readAmount_eq_error_iff {verb : Verb} :
    matcher.readAmount tokens verb = .error fault ↔
      ∃ token, tokens.written[1]? = some token ∧ Token.readAmount token = .error fault := by
  unfold readAmount
  cases htoken : tokens.written[1]? with
  | none => simp
  | some token =>
      cases hread : Token.readAmount token with
      | error raised => simp [hread]
      | ok amount => cases amount <;> simp [hread]

private theorem readCurrency_eq_error_iff {verb : Verb} :
    matcher.readCurrency tokens verb = .error fault ↔
      tokens.written[2]? = none ∧ fault = .absentToken := by
  unfold readCurrency
  cases htoken : tokens.written[2]? with
  | none => simp [eq_comm]
  | some token => simp

private theorem Justified.faults (h : Justified tokens executeBy matcher)
    (hstep : matcher.step tokens executeBy = .error fault) : Faults tokens fault := by
  unfold Matcher.step at hstep
  unfold Justified at h
  cases hstage : matcher.stage with
  | amount verb =>
      rw [hstage] at h hstep
      obtain ⟨token, htoken, hfault⟩ := readAmount_eq_error_iff.mp hstep
      exact .amount h.1 htoken hfault
  | currency verb =>
      rw [hstage] at h hstep
      obtain ⟨habsent, rfl⟩ := readCurrency_eq_error_iff.mp hstep
      obtain ⟨amount, hreads, _⟩ := h
      exact .currency hreads habsent
  | _ => simp [hstage] at hstep

private theorem Faults.exists_visits (h : Faults tokens fault) :
    ∃ ran matcher, Visits tokens executeBy ran matcher ∧ matcher.stage.isFinal = false ∧
      matcher.step tokens executeBy = .error fault := by
  cases h with
  | @amount verb token _ hreads htoken hfault =>
      have hverb : start.step tokens executeBy = _ :=
        congrArg Except.ok (readVerb_of_reads hreads)
      exact ⟨_, _, Visits.start.step rfl hverb, rfl,
        readAmount_eq_error_iff.mpr ⟨token, htoken, hfault⟩⟩
  | currency hreads habsent =>
      have hverb : start.step tokens executeBy = _ :=
        congrArg Except.ok (readVerb_of_reads hreads.toReadsVerb)
      exact ⟨_, _, (Visits.start.step rfl hverb).step rfl (readAmount_of_reads hreads), rfl,
        readCurrency_eq_error_iff.mpr ⟨habsent, rfl⟩⟩

theorem ofTokens_eq_error_iff :
    Match.ofTokens tokens executeBy = .error fault ↔ Faults tokens fault := by
  rw [ofTokens_eq_error_iff_visits]
  constructor
  · intro hparts
    obtain ⟨ran, matcher, hvisits, _, hstep⟩ := hparts
    exact hvisits.justified.faults hstep
  · intro h
    exact h.exists_visits

/-- An amount of digits alone, and too many of them to be read. -/
def Overlong (tokens : Tokens) : Prop :=
  ∃ verb, ReadsVerb tokens verb ∧
    ∃ token, tokens.written[1]? = some token ∧ Numeral.isNumeral token ∧ digitLimit < token.length

/-- An amount that can be read, where no third token is written. -/
def Clipped (tokens : Tokens) : Prop :=
  ∃ verb, ReadsVerb tokens verb ∧ tokens.written.length < 3 ∧
    ∃ token, tokens.written[1]? = some token ∧ Numeral.isNumeral token ∧
      token.length ≤ digitLimit ∧ 1 ≤ Numeral.value token

private theorem Overlong.faults {token : Text} (h : Overlong tokens)
    (htoken : tokens.written[1]? = some token) : Faults tokens (.tooManyDigits token.length) := by
  obtain ⟨verb, hreads, other, hother, hnumeral, hlong⟩ := h
  obtain rfl := Option.some.inj (htoken.symm.trans hother)
  exact .amount hreads htoken (Token.readAmount_eq_error_iff.mpr ⟨⟨hnumeral, hlong⟩, rfl⟩)

private theorem Clipped.faults (h : Clipped tokens) : Faults tokens .absentToken := by
  obtain ⟨verb, hreads, hshort, token, htoken, hnumeral, hlength, hpos⟩ := h
  have hread : Token.readAmount token = .ok (some (Numeral.value token)) :=
    Token.readAmount_eq_some_iff.mpr ⟨hnumeral, hlength, hpos, rfl⟩
  refine .currency { hreads with amountToken := ⟨token, htoken, hread⟩ } ?_
  exact List.getElem?_eq_none_iff.mpr (by omega)

theorem faults_iff :
    Faults tokens fault ↔
      (Overlong tokens ∧ ∃ token, tokens.written[1]? = some token ∧
        fault = .tooManyDigits token.length) ∨
      (Clipped tokens ∧ fault = .absentToken) := by
  constructor
  · intro h
    cases h with
    | amount hreads htoken hfault =>
        obtain ⟨⟨hnumeral, hlong⟩, rfl⟩ := Token.readAmount_eq_error_iff.mp hfault
        exact .inl ⟨⟨_, hreads, _, htoken, hnumeral, hlong⟩, _, htoken, rfl⟩
    | currency hreads habsent =>
        obtain ⟨token, htoken, hread⟩ := hreads.amountToken
        obtain ⟨hnumeral, hlength, hpos, rfl⟩ := Token.readAmount_eq_some_iff.mp hread
        have hshort := List.getElem?_eq_none_iff.mp habsent
        exact .inr ⟨⟨_, hreads.toReadsVerb, by omega, token, htoken, hnumeral, hlength, hpos⟩, rfl⟩
  · intro h
    rcases h with ⟨hlong, token, htoken, rfl⟩ | ⟨hclipped, rfl⟩
    · exact hlong.faults htoken
    · exact hclipped.faults

theorem exists_faults_iff : (∃ fault, Faults tokens fault) ↔ Overlong tokens ∨ Clipped tokens := by
  constructor
  · intro h
    obtain ⟨fault, h⟩ := h
    exact (faults_iff.mp h).imp And.left And.left
  · intro h
    rcases h with hlong | hclipped
    · obtain ⟨_, _, token, htoken, _⟩ := id hlong
      exact ⟨_, hlong.faults htoken⟩
    · exact ⟨_, hclipped.faults⟩

theorem not_clipped_of_capitals (h : tokens.capitals = tokens.written.map upper) :
    ¬ Clipped tokens := by
  intro hclipped
  obtain ⟨verb, hreads, hshort, _⟩ := hclipped
  have henough := hreads.enough
  rw [h, List.length_map] at henough
  omega

theorem exists_faults_ofWritten_iff {written : List Text} :
    (∃ fault, Faults (.ofWritten written) fault) ↔ Overlong (.ofWritten written) := by
  rw [exists_faults_iff, or_iff_left (not_clipped_of_capitals rfl)]

/-- Whatever the tokens are, in capitals and as they are written, and wherever the keywords stand,
matching faults on an overlong amount and on clipped tokens, and comes to an end in every other
case. -/
theorem ofTokens_faults_exactly (tokens : Tokens) (executeBy : Option Text) :
    (∀ fault, Match.ofTokens tokens executeBy = .error fault ↔
      (Overlong tokens ∧ ∃ token, tokens.written[1]? = some token ∧
        fault = .tooManyDigits token.length) ∨
      (Clipped tokens ∧ fault = .absentToken)) ∧
    ((∃ matcher, finish tokens executeBy = .ok matcher ∧ matcher.stage.isFinal ∧
        Match.ofTokens tokens executeBy = .ok ⟨matcher.instruction, matcher.stage.failure?⟩) ↔
      ¬ Overlong tokens ∧ ¬ Clipped tokens) ∧
    (tokens.capitals = tokens.written.map upper → ¬ Clipped tokens) := by
  have herror (fault : Fault) :
      Match.ofTokens tokens executeBy = .error fault ↔ Faults tokens fault := ofTokens_eq_error_iff
  refine ⟨fun fault => (herror fault).trans faults_iff, ?_, not_clipped_of_capitals⟩
  rw [← not_or, ← exists_faults_iff]
  simp only [← herror]
  cases hfinish : finish tokens executeBy with
  | error fault => simp [Match.ofTokens, hfinish, Except.map]
  | ok matcher => simp [Match.ofTokens, hfinish, Except.map, isFinal_finish hfinish]

/-- Two written tokens beside three capitals, and a zero that is written with 4301 digits. -/
theorem ofTokens_faults_exactly_at_both :
    let clipped : Tokens := ⟨["CREDIT", "FOR", "TO"], ["of", "5"]⟩
    let zero : Text := List.replicate 4301 (.scalar '0')
    Match.ofTokens clipped none = .error .absentToken ∧
      Match.ofTokens (.ofWritten ["debit", zero, "NGN"]) none = .error (.tooManyDigits 4301) := by
  intro clipped zero
  have hlength : zero.length = 4301 := List.length_replicate
  have hnumeral : Numeral.isNumeral zero := by
    refine Numeral.isNumeral_iff.mpr ⟨List.ne_nil_of_length_pos (by omega), fun c hc => ?_⟩
    obtain rfl := List.eq_of_mem_replicate hc
    rfl
  refine ⟨((ofTokens_faults_exactly clipped none).1 _).mpr (.inr ⟨?_, rfl⟩),
    ((ofTokens_faults_exactly _ none).1 _).mpr (.inl ⟨?_, zero, rfl, by rw [hlength]⟩)⟩
  · exact ⟨.credit, ⟨rfl, by decide⟩, by decide, "5", rfl, by decide, by decide, by decide⟩
  · refine ⟨.debit, ⟨by decide, ?_⟩, zero, rfl, hnumeral, by rw [hlength]; decide⟩
    rw [Tokens.capitals_ofWritten, List.length_map]
    decide

private theorem malformed_iff_of_head {verb : Verb} {code? : Option Code}
    (hhead : tokens.capitals.head? = some verb.keyword) (hcode : code? ≠ some .malformed) :
    code? = some .malformed ↔ ∀ verb : Verb, tokens.capitals.head? ≠ some verb.keyword := by
  constructor
  · intro h
    exact absurd h hcode
  · intro hunknown
    exact absurd hhead (hunknown verb)

private theorem Refused.malformed_iff {role : Role} (h : Refused tokens executeBy role matcher) :
    matcher.stage.failure? = some .malformed ↔
      ∀ verb : Verb, tokens.capitals.head? ≠ some verb.keyword := by
  cases h with
  | unknownVerb hunknown => simpa [Stage.failure?] using hunknown
  | tooShort hverb _ => exact malformed_iff_of_head hverb (by simp [Stage.failure?])
  | amount hreads _ | currency hreads _ _ | separators hreads _ | firstKeyword hreads _
  | firstId hreads _ | counterparty hreads _ | secondId hreads _ =>
      exact malformed_iff_of_head hreads.keyword (by simp [Stage.failure?])

theorem failure_malformed_iff {found : Match}
    (hmatch : Match.ofTokens tokens executeBy = .ok found) :
    found.failure = some .malformed ↔ ∀ verb : Verb, tokens.capitals.head? ≠ some verb.keyword := by
  obtain ⟨ran, matcher, hvisits, hfinal, rfl⟩ := ofTokens_eq_ok_iff_visits.mp hmatch
  rcases hvisits.cases with ⟨hpassed, _⟩ | ⟨role, hrefused, _⟩
  · obtain ⟨verb, amount, currency, s, f, firstId, secondId, hreads, _⟩ :=
      Match.ofTokens_eq_matched_iff.mp (hpassed ▸ hmatch)
    exact malformed_iff_of_head hreads.keyword (by simp [hpassed])
  · exact hrefused.malformed_iff

end Matcher

end Remittance
