import Remittance.Proofs.DateClause
import Remittance.Proofs.Matcher.Faults
import Remittance.Proofs.Overflow
import Remittance.Proofs.Transfer
import Remittance.Session

namespace Remittance

open Remittance.Text

variable {snapshot : Snapshot} {text : Text} {today : Date} {instruction : Instruction}
  {result : Result} {fault : Fault}

private theorem Reading.head?_written (text : Text) :
    (ofText text).tokens.written.head? = (words text).head? := by
  rcases firstOpens_or_none (words text) with ⟨place, hfirst⟩ | hnone
  · obtain ⟨dated⟩ := hfirst.exists_datedWords
    have hpieces := congrArg List.head? dated.pieces_eq
    rw [(ofText_late dated).1, dated.take_eq, hpieces]
    rfl
  · rw [(ofText_whole hnone).1]

theorem Reading.head?_capitals (text : Text) :
    (ofText text).tokens.capitals.head? = (words text).head?.map upper := by
  rw [← head?_written]
  exact List.head?_map

private theorem Verdict.of_eq_executed_iff {debit credit : Account} :
    Verdict.of instruction snapshot today = .ok ⟨.executed, some debit, some credit⟩ ↔
      ∃ amount, Cleared (.ofSnapshot instruction snapshot today) debit credit amount := by
  rw [of_eq_map, map_eq_ok_iff]
  constructor
  · intro h
    obtain ⟨code, hcode, hverdict⟩ := h
    obtain ⟨hexecuted, hdebit, hcredit⟩ := Verdict.mk.inj hverdict
    cases code with
    | some code =>
        obtain ⟨_, rule, _, _, _, hrule⟩ := Rule.firstCode_eq_some_iff.mp hcode
        exact absurd (Rule.code_of_check hrule ▸ hexecuted) rule.code_ne_executed
    | none =>
        obtain ⟨payer, payee, amount, h⟩ := Rule.firstCode_precedence_eq_none_iff.mp hcode
        obtain rfl := Option.some.inj (h.debit_eq.symm.trans hdebit)
        obtain rfl := Option.some.inj (h.credit_eq.symm.trans hcredit)
        exact ⟨amount, h⟩
  · intro h
    obtain ⟨amount, h⟩ := h
    refine ⟨none, Rule.firstCode_precedence_eq_none_iff.mpr ⟨debit, credit, amount, h⟩, ?_⟩
    rw [show snapshot.lookup? instruction.debitAccount = some debit from h.debit_eq,
      show snapshot.lookup? instruction.creditAccount = some credit from h.credit_eq]
    rfl

/-- A binary balance that is to receive more than any binary number. -/
def Account.Overflows (account : Account) (amount : Int) : Prop :=
  account.balance.isBinary ∧ Binary64.overflow ≤ amount

private theorem settle_eq_error_iff (hfinite : ∀ account ∈ snapshot, account.balance.isFinite)
    (hcomplete : instruction.Complete)
    (hdate : ∀ executeBy ∈ instruction.executeBy, Date.isWritten executeBy) :
    settle instruction snapshot today = .error fault ↔
      (∃ debit credit amount, Cleared (.ofSnapshot instruction snapshot today) debit credit amount ∧
        credit.Overflows amount) ∧ fault = .beyondBinary64 := by
  obtain ⟨amount, hamount, hpos⟩ := hcomplete.amount
  obtain ⟨n, rfl⟩ := Int.eq_ofNat_of_zero_le (show 0 ≤ amount by omega)
  rcases settle_cases instruction snapshot today with
    ⟨raised, hcode, _⟩ | ⟨rule, hcode, heq⟩ | ⟨debit, credit, amount, hcleared, heq⟩
  · obtain ⟨code, hok⟩ : ∃ code,
        Rule.firstCode (.ofSnapshot instruction snapshot today) Rule.precedence = .ok code :=
      Rule.exists_firstCode_precedence hamount hdate
    rw [hcode] at hok
    cases hok
  · rw [heq]
    constructor
    · intro h
      cases h
    · intro h
      obtain ⟨⟨debit, credit, amount, hcleared, _⟩, _⟩ := h
      have hnone := Rule.firstCode_precedence_eq_none_iff.mpr ⟨debit, credit, amount, hcleared⟩
      rw [hcode] at hnone
      cases hnone
  · obtain rfl := Option.some.inj (hamount.symm.trans hcleared.amount_eq)
    have hpayer := hfinite debit (Snapshot.lookup?_of_account hcleared.debit_eq).2.2
    rw [heq, map_eq_error_iff, Ledger.transfer_eq_error_iff hpayer hcleared.covered]
    apply and_congr_left'
    constructor
    · intro hcause
      exact ⟨debit, credit, n, hcleared, hcause.1, by exact_mod_cast hcause.2⟩
    · intro h
      obtain ⟨payer, payee, amount, hother, hbinary, hpast⟩ := h
      obtain rfl := Option.some.inj (hcleared.credit_eq.symm.trans hother.credit_eq)
      obtain rfl := Option.some.inj (hcleared.amount_eq.symm.trans hother.amount_eq)
      exact ⟨hbinary, by exact_mod_cast hpast⟩

theorem outcome_eq_error_iff :
    outcome snapshot text today = .error fault ↔
      Match.ofTokens (Reading.ofText text).tokens (Reading.ofText text).clause.executeBy =
          .error fault ∨
        ∃ instruction,
          Match.ofTokens (Reading.ofText text).tokens (Reading.ofText text).clause.executeBy =
            .ok ⟨instruction, none⟩ ∧
          instruction.executeBy.all Date.isWritten ∧
          settle instruction snapshot today = .error fault := by
  rw [outcome_eq, bind_eq_error_iff]
  apply or_congr_right
  constructor
  · intro h
    obtain ⟨⟨instruction, failure⟩, hmatch, h⟩ := h
    cases failure with
    | some code => cases h
    | none =>
        simp only at h
        split at h
        · rename_i hdate
          exact ⟨instruction, hmatch, hdate, h⟩
        · cases h
  · intro h
    obtain ⟨instruction, hmatch, hdate, h⟩ := h
    exact ⟨_, hmatch, by simpa only [if_pos hdate] using h⟩

/-- Every rule clears the transfer of an amount that the payee's balance cannot take up. -/
def Overflows (snapshot : Snapshot) (text : Text) (today : Date) : Prop :=
  let reading := Reading.ofText text
  ∃ instruction debit credit amount,
    Match.ofTokens reading.tokens reading.clause.executeBy = .ok ⟨instruction, none⟩ ∧
    instruction.executeBy.all Date.isWritten ∧
    Verdict.of instruction snapshot today = .ok ⟨.executed, some debit, some credit⟩ ∧
    instruction.amount = some amount ∧ credit.Overflows amount

theorem exists_outcome_error_iff (hfinite : ∀ account ∈ snapshot, account.balance.isFinite) :
    (∃ fault, outcome snapshot text today = .error fault) ↔
      Matcher.Overlong (Reading.ofText text).tokens ∨ Overflows snapshot text today := by
  simp only [outcome_eq_error_iff, exists_or, Matcher.ofTokens_eq_error_iff]
  apply or_congr
  · exact Matcher.exists_faults_ofWritten_iff
  · constructor
    · intro h
      obtain ⟨fault, instruction, hmatch, hdate, hsettle⟩ := h
      obtain ⟨⟨debit, credit, amount, hcleared, hoverflows⟩, _⟩ :=
        (settle_eq_error_iff hfinite (Match.complete_of_matched hmatch)
          (by simpa [Option.all_eq_true] using hdate)).mp hsettle
      exact ⟨instruction, debit, credit, amount, hmatch, hdate,
        Verdict.of_eq_executed_iff.mpr ⟨amount, hcleared⟩, hcleared.amount_eq, hoverflows⟩
    · intro h
      obtain ⟨instruction, debit, credit, amount, hmatch, hdate, hverdict, hamount, hoverflows⟩ := h
      obtain ⟨n, hcleared⟩ := Verdict.of_eq_executed_iff.mp hverdict
      obtain rfl := Option.some.inj (hamount.symm.trans hcleared.amount_eq)
      exact ⟨.beyondBinary64, instruction, hmatch, hdate,
        (settle_eq_error_iff hfinite (Match.complete_of_matched hmatch)
          (by simpa [Option.all_eq_true] using hdate)).mpr
          ⟨⟨debit, credit, amount, hcleared, hoverflows⟩, rfl⟩⟩

private theorem outcome_malformed_iff (h : outcome snapshot text today = .ok result) :
    result.code = .malformed ↔
      ∀ verb : Verb, (words text).head?.map upper ≠ some verb.keyword := by
  rw [outcome_eq] at h
  obtain ⟨⟨instruction, failure⟩, hmatch, h⟩ := bind_eq_ok_iff.mp h
  rw [← Reading.head?_capitals, ← Matcher.failure_malformed_iff hmatch]
  cases failure with
  | some code =>
      cases h
      exact (Option.some_inj).symm
  | none =>
      have hne : result.code ≠ .malformed := by
        simp only at h
        split at h
        · obtain ⟨code, ledger, hcode, rfl⟩ := exists_of_settle h
          rintro rfl
          exact hcode (by decide)
        · cases h
          exact Code.noConfusion
      simp [hne]

/-- The codes with their reasons and statuses, as they are written. -/
def Code.catalogue : List (String × String × String) := [
  ("SY01", "Missing required keyword(s) in instruction", "failed"),
  ("SY02", "Invalid keyword order in instruction", "failed"),
  ("SY03", "Malformed instruction: unable to parse keywords", "failed"),
  ("AM01", "Amount must be a positive integer", "failed"),
  ("CU01", "Account currency mismatch", "failed"),
  ("CU02", "Unsupported currency. Only NGN, USD, GBP, and GHS are supported", "failed"),
  ("AC01", "Insufficient funds in debit account", "failed"),
  ("AC02", "Debit and credit accounts cannot be the same", "failed"),
  ("AC03", "Account not found", "failed"),
  ("AC04", "Invalid account ID format", "failed"),
  ("DT01", "Invalid date format. Expect YYYY-MM-DD", "failed"),
  ("AP00", "Transaction executed successfully", "successful"),
  ("AP02", "Transaction scheduled for future execution", "pending")]

theorem Code.mem_catalogue (code : Code) :
    (code.text, code.reason, code.status.text) ∈ catalogue := by
  cases code <;> decide

/-- What is caught counts as malformed and is recorded once; nothing else is recorded, and nothing
else is malformed but a text that does not start with a verb. -/
theorem Session.process_unexpected (settings : Settings) (session : Session)
    (hfinite : ∀ account ∈ session.snapshot, account.balance.isFinite) (text : Text) :
    let turn := session.step settings (.process text)
    let caught := Matcher.Overlong (Reading.ofText text).tokens ∨
      Overflows session.snapshot text session.today
    ∃ result, turn.value = .result result ∧
      (result.code.text, result.reason, result.status.text) ∈ Code.catalogue ∧
      (caught → result = Result.malformed ∧
        ∃ event, turn.events = [event] ∧ event.level = .error) ∧
      (¬ caught → turn.events = [] ∧ (result.code = .malformed ↔
        ∀ verb : Verb, (words text).head?.map upper ≠ some verb.keyword)) := by
  intro turn caught
  have hcaught : (∃ fault, outcome session.snapshot text session.today = .error fault) ↔ caught :=
    exists_outcome_error_iff hfinite
  have hvalue : turn.value = .result (process session.snapshot text session.today).1 := rfl
  have hevents : turn.events =
      (process session.snapshot text session.today).2.toList.map .unexpected := rfl
  cases houtcome : outcome session.snapshot text session.today with
  | error fault =>
      have hfault : caught := hcaught.mp ⟨fault, houtcome⟩
      have hprocess : process session.snapshot text session.today =
          (Result.malformed, some fault) := by rw [process, houtcome]
      rw [hvalue, hevents, hprocess]
      exact ⟨_, rfl, Code.mem_catalogue _, fun _ => ⟨rfl, _, rfl, rfl⟩,
        fun hnone => absurd hfault hnone⟩
  | ok result =>
      have hnone : ¬ caught := by
        intro hfault
        obtain ⟨fault, herror⟩ := hcaught.mpr hfault
        rw [houtcome] at herror
        cases herror
      have hprocess : process session.snapshot text session.today = (result, none) := by
        rw [process, houtcome]
      rw [hvalue, hevents, hprocess]
      exact ⟨_, rfl, Code.mem_catalogue _, fun hfault => absurd hfault hnone,
        fun _ => ⟨rfl, outcome_malformed_iff houtcome⟩⟩

/-- The payer can afford the amount, but the payee's balance is binary. -/
theorem Session.process_unexpected_past_binary64 :
    let payee : Account := ⟨"b", .binary (.zero false), "NGN"⟩
    let payer : Account := ⟨"a", .whole (Nat.pow 10 309), "ngn"⟩
    let session : Session := { snapshot := [payee, payer], today := ⟨2025, 1, 31⟩ }
    let text : Text := Text.ofString "DEBIT 1" ++ List.replicate 308 (.scalar '9') ++
      Text.ofString " NGN FROM ACCOUNT a FOR CREDIT TO ACCOUNT b"
    let turn := session.step {} (.process text)
    Overflows session.snapshot text session.today ∧ turn.value = .result Result.malformed ∧
      ∃ event, turn.events = [event] ∧ event.level = .error := by
  intro payee payer session text turn
  have hfinite : ∀ account ∈ session.snapshot, account.balance.isFinite := by
    decide
  have hoverflows : Overflows session.snapshot text session.today :=
    ⟨.ofSecondId .debit none (2 * Nat.pow 10 308 - 1) "NGN" "a" "b", payer, payee,
      2 * Nat.pow 10 308 - 1, by decide +kernel, by decide +kernel, by decide +kernel,
      by decide +kernel, rfl, by decide +kernel⟩
  obtain ⟨result, hvalue, _, hcaught, _⟩ := process_unexpected {} session hfinite text
  obtain ⟨rfl, hevent⟩ := hcaught (.inr hoverflows)
  exact ⟨hoverflows, hvalue, hevent⟩

end Remittance
