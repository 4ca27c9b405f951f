import Remittance.Processing
import Remittance.Proofs.Calendar.Written
import Remittance.Proofs.Rules
import Remittance.Proofs.Token

namespace Remittance

open Remittance.Text

def Case.ofSnapshot (instruction : Instruction) (snapshot : Snapshot) (today : Date) : Case :=
  ⟨instruction, snapshot.lookup? instruction.debitAccount,
    snapshot.lookup? instruction.creditAccount, today⟩

inductive Ends (snapshot : Snapshot) (text : Text) (today : Date) : Result → Prop
  | refused {instruction : Instruction} {code : Code} (hcode : code ≠ .executed) :
      Ends snapshot text today (.of instruction code snapshot [])
  | executed {instruction : Instruction} {debit credit : Account} {amount : Int} {ledger : Ledger}
      (hmatch : Match.ofTokens (Reading.ofText text).tokens (Reading.ofText text).clause.executeBy =
        .ok ⟨instruction, none⟩)
      (hdate : ∀ executeBy ∈ instruction.executeBy, Date.isWritten executeBy)
      (hcleared : Cleared (.ofSnapshot instruction snapshot today) debit credit amount)
      (htransfer : Ledger.transfer debit credit amount = .ok ledger) :
      Ends snapshot text today (.of instruction .executed snapshot ledger)

variable {snapshot : Snapshot} {text : Text} {today : Date} {instruction : Instruction}
  {result : Result}

theorem outcome_eq (snapshot : Snapshot) (text : Text) (today : Date) :
    outcome snapshot text today = (do
      let reading := Reading.ofText text
      let found ← Match.ofTokens reading.tokens reading.clause.executeBy
      match found.failure with
      | some code => pure (Result.of found.instruction code snapshot [])
      | none =>
          if found.instruction.executeBy.all Date.isWritten then
            settle found.instruction snapshot today
          else
            pure (Result.of found.instruction .invalidDate snapshot [])) := by
  unfold outcome
  apply bind_congr
  intro found
  cases found.failure with
  | some code => rfl
  | none =>
      cases found.instruction.executeBy with
      | none => rfl
      | some executeBy =>
          simp only [Option.elim_some, Option.all_some, Date.checkWritten_eq]
          rfl

theorem Result.eq_of_views {a b : Result} (hinstruction : a.instruction = b.instruction)
    (hcode : a.code = b.code) (hviews : a.views = b.views) : a = b := by
  cases a
  cases b
  simp_all

private theorem Code.ne_executed_of_mem_refusals {code : Code} (h : code ∈ refusals) :
    code ≠ .executed := by
  intro heq
  subst heq
  exact absurd h (by decide)

theorem Verdict.of_eq_map (instruction : Instruction) (snapshot : Snapshot) (today : Date) :
    Verdict.of instruction snapshot today =
      (Rule.firstCode (.ofSnapshot instruction snapshot today) Rule.precedence).map fun code =>
        ⟨code.getD .executed, snapshot.lookup? instruction.debitAccount,
          snapshot.lookup? instruction.creditAccount⟩ :=
  rfl

theorem settle_of_refused {rule : Rule}
    (hcode : Rule.firstCode (.ofSnapshot instruction snapshot today) Rule.precedence =
      .ok (some rule.code)) :
    settle instruction snapshot today = .ok (.of instruction rule.code snapshot []) := by
  have hheld : (rule.code == Code.executed) = false := by
    cases rule <;> rfl
  rw [settle, Verdict.of_eq_map, hcode]
  simp only [Except.map, Option.getD_some, bind, Except.bind, Verdict.cleared, hheld]
  rfl

private theorem settle_of_cleared {debit credit : Account} {amount : Int}
    (h : Cleared (.ofSnapshot instruction snapshot today) debit credit amount) :
    settle instruction snapshot today =
      (Ledger.transfer debit credit amount).map (.of instruction .executed snapshot) := by
  have hnone := Rule.firstCode_precedence_eq_none_iff.mpr ⟨debit, credit, amount, h⟩
  have hdebit : snapshot.lookup? instruction.debitAccount = some debit := h.debit_eq
  have hcredit : snapshot.lookup? instruction.creditAccount = some credit := h.credit_eq
  have hamount : instruction.amount = some amount := h.amount_eq
  rw [settle, Verdict.of_eq_map, hnone, hdebit, hcredit, hamount]
  cases htransfer : Ledger.transfer debit credit amount <;>
    simp [Except.map, bind, Except.bind, Verdict.cleared, htransfer, pure, Except.pure]

theorem settle_cases (instruction : Instruction) (snapshot : Snapshot) (today : Date) :
    (∃ fault,
      Rule.firstCode (.ofSnapshot instruction snapshot today) Rule.precedence = .error fault ∧
        settle instruction snapshot today = .error fault) ∨
    (∃ rule : Rule,
      Rule.firstCode (.ofSnapshot instruction snapshot today) Rule.precedence =
        .ok (some rule.code) ∧
        settle instruction snapshot today = .ok (.of instruction rule.code snapshot [])) ∨
    ∃ debit credit amount, Cleared (.ofSnapshot instruction snapshot today) debit credit amount ∧
      settle instruction snapshot today =
        (Ledger.transfer debit credit amount).map (.of instruction .executed snapshot) := by
  cases hcode : Rule.firstCode (.ofSnapshot instruction snapshot today) Rule.precedence with
  | error fault =>
      refine .inl ⟨fault, rfl, ?_⟩
      rw [settle, Verdict.of_eq_map, hcode]
      rfl
  | ok code =>
      cases code with
      | some code =>
          obtain ⟨_, rule, _, _, _, hrule⟩ := Rule.firstCode_eq_some_iff.mp hcode
          obtain rfl := Rule.code_of_check hrule
          exact .inr (.inl ⟨rule, rfl, settle_of_refused hcode⟩)
      | none =>
          obtain ⟨debit, credit, amount, hcleared⟩ :=
            Rule.firstCode_precedence_eq_none_iff.mp hcode
          exact .inr (.inr ⟨debit, credit, amount, hcleared, settle_of_cleared hcleared⟩)

/-- The codes that tell what is wrong with a text, its date included. -/
def Code.syntactic : List Code :=
  refusals ++ [.invalidDate]

theorem exists_of_settle (h : settle instruction snapshot today = .ok result) :
    ∃ code ledger, code ∉ Code.syntactic ∧ result = .of instruction code snapshot ledger := by
  rcases settle_cases instruction snapshot today with
    ⟨fault, _, heq⟩ | ⟨rule, _, heq⟩ | ⟨debit, credit, amount, _, heq⟩
  · rw [heq] at h
    cases h
  · rw [heq] at h
    obtain rfl := Except.ok.inj h
    exact ⟨rule.code, [], by cases rule <;> decide, rfl⟩
  · rw [heq] at h
    obtain ⟨ledger, _, rfl⟩ := map_eq_ok_iff.mp h
    exact ⟨.executed, ledger, by decide, rfl⟩

private theorem ends_of_settle
    (hmatch : Match.ofTokens (Reading.ofText text).tokens (Reading.ofText text).clause.executeBy =
      .ok ⟨instruction, none⟩)
    (hdate : ∀ executeBy ∈ instruction.executeBy, Date.isWritten executeBy)
    (hsettle : settle instruction snapshot today = .ok result) :
    Ends snapshot text today result := by
  rcases settle_cases instruction snapshot today with
    ⟨fault, _, heq⟩ | ⟨rule, _, heq⟩ | ⟨debit, credit, amount, hcleared, heq⟩
  · rw [heq] at hsettle
    cases hsettle
  · rw [heq] at hsettle
    cases hsettle
    exact .refused rule.code_ne_executed
  · rw [heq] at hsettle
    obtain ⟨ledger, htransfer, rfl⟩ := map_eq_ok_iff.mp hsettle
    exact .executed hmatch hdate hcleared htransfer

theorem ends_of_outcome (h : outcome snapshot text today = .ok result) :
    Ends snapshot text today result := by
  rw [outcome_eq] at h
  obtain ⟨found, hmatch, h⟩ := bind_eq_ok_iff.mp h
  cases hfailure : found.failure with
  | some code =>
      rw [hfailure] at h
      cases h
      exact .refused (Code.ne_executed_of_mem_refusals (Match.failure_mem_refusals hmatch hfailure))
  | none =>
      have hfound : found = ⟨found.instruction, none⟩ := by rw [← hfailure]
      rw [hfailure] at h
      rw [hfound] at hmatch
      simp only at h
      split at h
      · rename_i hdate
        exact ends_of_settle hmatch (by simpa [Option.all_eq_true] using hdate) h
      · cases h
        exact .refused (by decide)

theorem process_of_outcome_ok (h : outcome snapshot text today = .ok result) :
    process snapshot text today = (result, none) := by
  rw [process, h]

theorem process_of_outcome_error {fault : Fault} (h : outcome snapshot text today = .error fault) :
    process snapshot text today = (Result.malformed, some fault) := by
  rw [process, h]

structure Instruction.Complete (instruction : Instruction) : Prop where
  amount : ∃ amount : Int, instruction.amount = some amount ∧ 1 ≤ amount
  currency : ∃ currency ∈ Token.supportedCurrencies, instruction.currency = some currency
  account : ∀ verb, ∃ id, instruction.accountOf verb = some id ∧ Token.isAccountId id

theorem Match.complete_of_matched {tokens : Tokens} {executeBy : Option Text}
    (h : Match.ofTokens tokens executeBy = .ok ⟨instruction, none⟩) : instruction.Complete := by
  obtain ⟨verb, amount, currency, s, f, firstId, secondId, hreads, rfl⟩ :=
    Match.ofTokens_eq_matched_iff.mp h
  obtain ⟨token, _, hamount⟩ := hreads.amountToken
  obtain ⟨_, _, hpos, _⟩ := Token.readAmount_eq_some_iff.mp hamount
  obtain ⟨word, _, hcurrency⟩ := hreads.currencyToken
  have hsupported := hreads.supported
  refine ⟨⟨amount, Instruction.amount_ofSecondId .., by omega⟩,
    ⟨currency, ?_, Instruction.currency_ofSecondId ..⟩, ?_⟩
  · rw [← hcurrency] at hsupported ⊢
    exact Token.isCurrency_upper.mp hsupported
  · intro account
    have hside : account = verb ∨ account = verb.counter := by
      cases verb <;> cases account <;> decide
    rcases hside with rfl | rfl
    · exact ⟨firstId, Instruction.accountOf_ofSecondId .., hreads.firstValid⟩
    · exact ⟨secondId, Instruction.accountOf_counter_ofSecondId .., hreads.secondValid⟩

end Remittance
