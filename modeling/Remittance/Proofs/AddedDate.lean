import Remittance.Proofs.Matcher.Date
import Remittance.Proofs.Precedence
import Remittance.Proofs.RoundTrip
import Remittance.Proofs.Transfer
import Remittance.Proofs.Unexpected

namespace Remittance

open Remittance.Text

variable {snapshot : Snapshot} {text date : Text} {today : Date} {instruction : Instruction}
  {verdict : Verdict} {code : Code}

theorem words_addDate (text : Text) (hdate : IsWord date) :
    words (text ++ Clause.marker ++ date) = words text ++ [onKeyword, date] := by
  have hon : IsWord onKeyword := ⟨by decide, by decide⟩
  have hshape : text ++ Clause.marker ++ date =
      text ++ .scalar ' ' :: (onKeyword ++ .scalar ' ' :: date) := by
    rw [List.append_assoc]
    rfl
  calc
    words (text ++ Clause.marker ++ date)
        = words text ++ (words onKeyword ++ words date) := by
      rw [hshape, words, runs_append_cons isBlank_space, runs_append_cons isBlank_space]
      rfl
    _ = words text ++ [onKeyword, date] := by
      rw [hon.words_eq, hdate.words_eq]
      rfl

namespace Reading

theorem ofText_addDate (hne : words text ≠ [])
    (hcapitals : ∀ c ∈ text, (capitals c).length = 1)
    (hon : ∀ word ∈ (words text).tail, upper word ≠ onKeyword) (hdate : IsWord date) :
    ((ofText text).tokens = .ofWritten (words text) ∧ (ofText text).clause.executeBy = none) ∧
      (ofText (text ++ Clause.marker ++ date)).tokens = .ofWritten (words text) ∧
      (ofText (text ++ Clause.marker ++ date)).clause.executeBy = some date := by
  have hletters : ∀ word ∈ words text, ∀ c ∈ word, (capitals c).length = 1 :=
    fun word hword c hc => hcapitals c (mem_of_mem_words hword hc)
  have hkeyword : upper onKeyword = onKeyword := by decide
  exact ⟨DateClause.absent.ofText_of_tail hne hon hletters (List.append_nil _).symm,
    (DateClause.present hkeyword).ofText_of_tail hne hon hletters (words_addDate text hdate)⟩

end Reading

/-! A date bears on two codes only: its own, and that of the schedule. -/

namespace Code

private theorem applies_withDate_iff {executeBy : Option Text} (hdate : code ≠ .invalidDate)
    (hschedule : code ≠ .scheduled) :
    code.Applies (instruction.withDate executeBy) snapshot today ↔
      code.Applies instruction snapshot today := by
  cases code with
  | invalidDate => exact absurd rfl hdate
  | scheduled => exact absurd rfl hschedule
  | _ => exact Iff.rfl

private theorem FirstApplies.mem_of_undated (h : code.FirstApplies instruction snapshot today)
    (hundated : instruction.executeBy = none) :
    code ∈ [.accountNotFound, .currencyMismatch, .sameAccount, .insufficientFunds, .executed] := by
  have hlisted := h.listed
  have happlies := h.applies
  cases code with
  | invalidDate => simp [Applies, hundated] at happlies
  | scheduled => simp [Applies, hundated] at happlies
  | _ => revert hlisted; decide

private theorem firstApplies_invalidDate (hinvalid : ∀ day, ¬ Date.Writes date day) :
    invalidDate.FirstApplies (instruction.withDate (some date)) snapshot today where
  listed := by decide
  applies := ⟨date, rfl, hinvalid⟩
  first := by simp [earlier, verdicts]

private theorem not_applies_invalidDate_of_writes {day : Date} (hwrites : Date.Writes date day) :
    ¬ invalidDate.Applies (instruction.withDate (some date)) snapshot today := by
  rw [not_applies_invalidDate_iff]
  rintro _ ⟨⟩
  exact Date.isWritten_iff_exists_writes.mpr ⟨day, hwrites⟩

theorem FirstApplies.withDate (h : code.FirstApplies instruction snapshot today)
    (hundated : instruction.executeBy = none) {day : Date} (hwrites : Date.Writes date day)
    (hdue : .scheduled ∈ code.earlier → ¬ day.IsAfter today) :
    code.FirstApplies (instruction.withDate (some date)) snapshot today where
  listed := h.listed
  applies := by
    have hmem := h.mem_of_undated hundated
    refine (applies_withDate_iff ?_ ?_).mpr h.applies
    · rintro rfl
      exact absurd hmem (by decide)
    · rintro rfl
      exact absurd hmem (by decide)
  first := by
    intro earlier hearlier happlies
    cases earlier with
    | invalidDate => exact not_applies_invalidDate_of_writes hwrites happlies
    | scheduled =>
        obtain ⟨written, hwritten, other, hother, hafter⟩ := happlies
        obtain rfl := Option.some.inj hwritten
        obtain rfl := hwrites.unique hother
        exact hdue hearlier hafter
    | _ => exact h.first _ hearlier happlies

private theorem FirstApplies.scheduled_withDate (h : code.FirstApplies instruction snapshot today)
    {day : Date} (hlate : .scheduled ∈ code.earlier) (hwrites : Date.Writes date day)
    (hafter : day.IsAfter today) :
    scheduled.FirstApplies (instruction.withDate (some date)) snapshot today where
  listed := by decide
  applies := ⟨date, rfl, day, hwrites, hafter⟩
  first := by
    have hfront : ∀ code ∈ verdicts, scheduled ∈ code.earlier →
        ∀ earlier ∈ scheduled.earlier, earlier ∈ code.earlier := by
      decide
    intro earlier hearlier happlies
    cases earlier with
    | invalidDate => exact not_applies_invalidDate_of_writes hwrites happlies
    | scheduled => exact absurd hearlier (by decide)
    | _ => exact h.first _ (hfront code h.listed hlate _ hearlier) happlies

end Code

def Result.withDate (result : Result) (executeBy : Option Text) : Result :=
  { result with instruction := result.instruction.withDate executeBy }

def Result.unmoved (instruction : Instruction) (code : Code) (snapshot : Snapshot) : Result :=
  ⟨instruction, code, (snapshot.filter instruction.names).map View.unchanged⟩

namespace Verdict

private theorem enact_withDate (verdict : Verdict) (instruction : Instruction) (snapshot : Snapshot)
    (executeBy : Option Text) :
    verdict.enact (instruction.withDate executeBy) snapshot =
      (verdict.enact instruction snapshot).map (·.withDate executeBy) := by
  have hamount : (instruction.withDate executeBy).amount = instruction.amount := rfl
  unfold enact
  rw [hamount]
  split
  · split
    · rename_i debit credit amount _ _ _
      cases Ledger.transfer debit credit amount <;> rfl
    · rfl
  · rfl

private theorem enact_of_code_ne_executed (h : verdict.code ≠ .executed) :
    verdict.enact instruction snapshot = .ok (.unmoved instruction verdict.code snapshot) := by
  have hheld : ¬ verdict.cleared := fun hcleared => h (beq_iff_eq.mp hcleared)
  rw [enact, if_neg hheld]
  rfl

end Verdict

section

variable (hwhole : ∀ account ∈ snapshot, ∃ balance, account.balance = .whole balance)

include hwhole

private theorem isFinite_of_whole : ∀ account ∈ snapshot, account.balance.isFinite := by
  intro account hmem
  obtain ⟨balance, hbalance⟩ := hwhole account hmem
  rw [hbalance]
  rfl

private theorem judge_withDate {amount : Int} (hamount : instruction.amount = some amount)
    (hjudge : judge instruction snapshot today = .ok verdict)
    (hfirst : verdict.code.FirstApplies (instruction.withDate (some date)) snapshot today)
    (hvalid : verdict.code ≠ .invalidDate) :
    judge (instruction.withDate (some date)) snapshot today = .ok verdict := by
  have hdated : (instruction.withDate (some date)).amount = some amount := hamount
  obtain ⟨other, hother, hotherFirst⟩ :=
    exists_judge_firstApplies (isFinite_of_whole hwhole) hdated today
  have hcode : other.code = verdict.code := hotherFirst.unique hfirst
  obtain ⟨hdebit, hcredit⟩ := accounts_of_judge hjudge hvalid
  obtain ⟨hotherDebit, hotherCredit⟩ := accounts_of_judge hother (hcode ▸ hvalid)
  have heq : other = verdict := by
    cases other
    cases verdict
    simp_all [Instruction.withDate]
  rw [hother, heq]

private theorem judge_enact_withDate {amount : Int} (hamount : instruction.amount = some amount)
    (hundated : instruction.executeBy = none)
    (hjudge : judge instruction snapshot today = .ok verdict)
    (hfirst : verdict.code.FirstApplies instruction snapshot today) {day : Date}
    (hwrites : Date.Writes date day)
    (hdue : .scheduled ∈ verdict.code.earlier → ¬ day.IsAfter today) :
    judge (instruction.withDate (some date)) snapshot today >>=
        (·.enact (instruction.withDate (some date)) snapshot) =
      (verdict.enact instruction snapshot).map (·.withDate (some date)) := by
  have hvalid : verdict.code ≠ .invalidDate := by
    have hmem := hfirst.mem_of_undated hundated
    exact fun h => absurd (h ▸ hmem) (by decide)
  rw [judge_withDate hwhole hamount hjudge (hfirst.withDate hundated hwrites hdue) hvalid]
  exact verdict.enact_withDate instruction snapshot (some date)

theorem exists_enact {amount : Int} (hamount : instruction.amount = some amount)
    (hjudge : judge instruction snapshot today = .ok verdict)
    (hfirst : verdict.code.FirstApplies instruction snapshot today) :
    ∃ ledger, verdict.enact instruction snapshot =
      .ok (.of instruction verdict.code snapshot ledger) := by
  by_cases hexecuted : verdict.code = .executed
  · have hfound := hfirst.first .accountNotFound (by rw [hexecuted]; decide)
    obtain ⟨debit, credit, hdebit, hcredit⟩ := Code.not_applies_accountNotFound_iff.mp hfound
    rw [← Snapshot.lookup?_eq_some_iff] at hdebit hcredit
    obtain ⟨hpayer, hpayee⟩ := accounts_of_judge hjudge (by rw [hexecuted]; decide)
    obtain ⟨funds, hfunds⟩ := hwhole debit (Snapshot.lookup?_of_account hdebit).2.2
    obtain ⟨savings, hsavings⟩ := hwhole credit (Snapshot.lookup?_of_account hcredit).2.2
    have hcleared : verdict.cleared := beq_iff_eq.mpr hexecuted
    rw [Verdict.enact, if_pos hcleared, hpayer, hpayee, hdebit, hcredit, hamount, hexecuted]
    simp only [Ledger.transfer, hfunds, hsavings, Balance.minus_whole, Balance.plus_whole]
    exact ⟨_, rfl⟩
  · exact ⟨[], Verdict.enact_of_code_ne_executed hexecuted⟩

private theorem exists_judge_enact {amount : Int} (hamount : instruction.amount = some amount)
    (today : Date) :
    ∃ verdict ledger, judge instruction snapshot today = .ok verdict ∧
      verdict.code.FirstApplies instruction snapshot today ∧
      verdict.enact instruction snapshot = .ok (.of instruction verdict.code snapshot ledger) := by
  obtain ⟨verdict, hjudge, hfirst⟩ :=
    exists_judge_firstApplies (isFinite_of_whole hwhole) hamount today
  obtain ⟨ledger, henact⟩ := exists_enact hwhole hamount hjudge hfirst
  exact ⟨verdict, ledger, hjudge, hfirst, henact⟩

private theorem exists_outcome_of_matched
    (hmatch : Match.ofTokens (Reading.ofText text).tokens (Reading.ofText text).clause.executeBy =
      .ok ⟨instruction, none⟩) (today : Date) :
    ∃ result, outcome snapshot text today = .ok result := by
  obtain ⟨amount, hamount, _⟩ := (Match.complete_of_matched hmatch).amount
  obtain ⟨verdict, ledger, hjudge, _, henact⟩ := exists_judge_enact hwhole hamount today
  rw [outcome_of_matched hmatch, hjudge]
  exact ⟨_, henact⟩

theorem judge_enact_of_firstApplies {amount : Int} (hamount : instruction.amount = some amount)
    (hfirst : code.FirstApplies instruction snapshot today) (hcode : code ≠ .executed) :
    judge instruction snapshot today >>= (·.enact instruction snapshot) =
      .ok (.unmoved instruction code snapshot) := by
  obtain ⟨verdict, hjudge, hother⟩ :=
    exists_judge_firstApplies (isFinite_of_whole hwhole) hamount today
  obtain rfl := hfirst.unique hother
  rw [hjudge]
  exact Verdict.enact_of_code_ne_executed hcode

end

structure AddsDate (snapshot : Snapshot) (today : Date) (date : Text) (before after : Result) :
    Prop where
  malformed : before.code = .malformed → after = before
  refused : before.code ∈ Code.refusals → before.code ≠ .malformed →
    after = before.withDate (some date)
  judged : before.code ∉ Code.refusals →
    before.code ∈ [.accountNotFound, .currencyMismatch, .sameAccount, .insufficientFunds, .executed]
  invalid : before.code ∉ Code.refusals → (∀ day, ¬ Date.Writes date day) →
    after = .unmoved (before.instruction.withDate (some date)) .invalidDate snapshot
  earlier : before.code ∈ [.accountNotFound, .currencyMismatch, .sameAccount] →
    ∀ day, Date.Writes date day → after = before.withDate (some date)
  later : before.code ∈ [.insufficientFunds, .executed] →
    ∀ day, Date.Writes date day → day.IsAfter today →
      after = .unmoved (before.instruction.withDate (some date)) .scheduled snapshot
  due : before.code ∈ [.insufficientFunds, .executed] →
    ∀ day, Date.Writes date day → ¬ day.IsAfter today → after = before.withDate (some date)

namespace AddsDate

private theorem of_malformed {result : Result} (h : result.code = .malformed) :
    AddsDate snapshot today date result result where
  malformed _ := rfl
  refused _ hne := absurd h hne
  judged hjudged := absurd (h ▸ by decide) hjudged
  invalid hjudged := absurd (h ▸ by decide) hjudged
  earlier hmem := absurd (h ▸ hmem) (by decide)
  later hmem := absurd (h ▸ hmem) (by decide)
  due hmem := absurd (h ▸ hmem) (by decide)

private theorem of_refused {result : Result} (hrefused : result.code ∈ Code.refusals)
    (hne : result.code ≠ .malformed) :
    AddsDate snapshot today date result (result.withDate (some date)) where
  malformed h := absurd h hne
  refused _ _ := rfl
  judged hjudged := absurd hrefused hjudged
  invalid hjudged := absurd hrefused hjudged
  earlier _ _ _ := rfl
  later hmem := by
    have hjudged : ∀ code ∈ [Code.insufficientFunds, .executed], code ∉ Code.refusals := by
      decide
    exact absurd hrefused (hjudged _ hmem)
  due _ _ _ _ := rfl

private theorem of_judged
    (hwhole : ∀ account ∈ snapshot, ∃ balance, account.balance = .whole balance)
    {amount : Int} (hamount : instruction.amount = some amount)
    (hundated : instruction.executeBy = none) {before after : Result}
    (hbefore : judge instruction snapshot today >>= (·.enact instruction snapshot) = .ok before)
    (hafter : judge (instruction.withDate (some date)) snapshot today >>=
      (·.enact (instruction.withDate (some date)) snapshot) = .ok after) :
    AddsDate snapshot today date before after := by
  obtain ⟨verdict, ledger, hjudge, hfirst, henact⟩ := exists_judge_enact hwhole hamount today
  have hjudged := hfirst.mem_of_undated hundated
  obtain rfl : .of instruction verdict.code snapshot ledger = before := by
    rw [hjudge] at hbefore
    exact Except.ok.inj (henact.symm.trans hbefore)
  have hread : verdict.code ∉ Code.refusals := by
    have hapart : ∀ code ∈ Code.refusals, code ∉
        [.accountNotFound, .currencyMismatch, .sameAccount, .insufficientFunds, .executed] := by
      decide
    exact fun hmem => hapart _ hmem hjudged
  have hstops : ∀ code : Code, code ≠ .executed →
      code.FirstApplies (instruction.withDate (some date)) snapshot today →
        after = .unmoved (instruction.withDate (some date)) code snapshot := by
    intro code hcode hcodeFirst
    have hdated : (instruction.withDate (some date)).amount = some amount := hamount
    rw [judge_enact_of_firstApplies hwhole hdated hcodeFirst hcode] at hafter
    exact (Except.ok.inj hafter).symm
  have hkeeps : ∀ day, Date.Writes date day →
      (.scheduled ∈ verdict.code.earlier → ¬ day.IsAfter today) →
        after = Result.withDate (.of instruction verdict.code snapshot ledger) (some date) := by
    intro day hwrites hdue
    rw [judge_enact_withDate hwhole hamount hundated hjudge hfirst hwrites hdue, henact] at hafter
    exact (Except.ok.inj hafter).symm
  have hpassed : ∀ code ∈ [Code.accountNotFound, .currencyMismatch, .sameAccount],
      .scheduled ∉ code.earlier := by
    decide
  have hreached : ∀ code ∈ [Code.insufficientFunds, .executed], .scheduled ∈ code.earlier := by
    decide
  exact {
    malformed := by
      intro h
      change verdict.code = .malformed at h
      exact absurd (h ▸ by decide : verdict.code ∈ Code.refusals) hread
    refused := fun h => absurd h hread
    judged := fun _ => hjudged
    invalid := fun _ hinvalid => hstops _ (by decide) (Code.firstApplies_invalidDate hinvalid)
    earlier := fun hmem day hwrites =>
      hkeeps day hwrites fun hlate => absurd hlate (hpassed _ hmem)
    later := fun hmem day hwrites hlater =>
      hstops _ (by decide) (hfirst.scheduled_withDate (hreached _ hmem) hwrites hlater)
    due := fun _ day hwrites hnot => hkeeps day hwrites fun _ => hnot }

theorem of_known (hwhole : ∀ account ∈ snapshot, ∃ balance, account.balance = .whole balance)
    {verb : Verb} {longer : Text}
    (hverb : (Reading.ofText text).tokens.capitals.head? = some verb.keyword)
    (htokens : (Reading.ofText longer).tokens = (Reading.ofText text).tokens)
    (hundated : (Reading.ofText text).clause.executeBy = none)
    (hdated : (Reading.ofText longer).clause.executeBy = some date) :
    AddsDate snapshot today date (process snapshot text today).1
      (process snapshot longer today).1 := by
  have hlonger : Match.ofTokens (Reading.ofText longer).tokens
        (Reading.ofText longer).clause.executeBy =
      (Match.ofTokens (Reading.ofText text).tokens (Reading.ofText text).clause.executeBy).map
        (·.withDate (some date)) := by
    rw [htokens, hdated]
    exact Match.ofTokens_withDate hverb _ _
  cases hfound : Match.ofTokens (Reading.ofText text).tokens
      (Reading.ofText text).clause.executeBy with
  | error fault =>
      rw [hfound] at hlonger
      rw [process_of_outcome_error (outcome_eq_error_iff.mpr (.inl hfound)),
        process_of_outcome_error (outcome_eq_error_iff.mpr (.inl hlonger))]
      exact of_malformed rfl
  | ok found =>
      obtain ⟨instruction, failure⟩ := found
      rw [hfound] at hlonger
      cases failure with
      | some code =>
          rw [process_of_outcome_ok (outcome_of_refused hfound),
            process_of_outcome_ok (outcome_of_refused hlonger)]
          refine of_refused (Match.failure_mem_refusals hfound rfl) ?_
          rintro rfl
          exact (Matcher.failure_malformed_iff hfound).mp rfl verb hverb
      | none =>
          obtain ⟨amount, hamount, _⟩ := (Match.complete_of_matched hfound).amount
          have hnone : instruction.executeBy = none := by
            obtain ⟨_, _, _, _, _, _, _, _, rfl⟩ := Match.ofTokens_eq_matched_iff.mp hfound
            rw [Instruction.executeBy_ofSecondId, hundated]
          have hlongerFound : Match.ofTokens (Reading.ofText longer).tokens
                (Reading.ofText longer).clause.executeBy =
              .ok ⟨instruction.withDate (some date), none⟩ :=
            hlonger
          obtain ⟨before, hbefore⟩ := exists_outcome_of_matched hwhole hfound today
          obtain ⟨after, hafter⟩ := exists_outcome_of_matched hwhole hlongerFound today
          rw [process_of_outcome_ok hbefore, process_of_outcome_ok hafter]
          rw [outcome_of_matched hfound] at hbefore
          rw [outcome_of_matched hlongerFound] at hafter
          exact of_judged hwhole hamount hnone hbefore hafter

end AddsDate

/-- A date at the end of a text bears on nothing but what a date decides. -/
theorem process_addDate
    (hwhole : ∀ account ∈ snapshot, ∃ balance, account.balance = .whole balance)
    (hcapitals : ∀ c ∈ text, (capitals c).length = 1)
    (hon : ∀ word ∈ (words text).tail, upper word ≠ onKeyword) (hdate : IsWord date)
    (today : Date) :
    AddsDate snapshot today date (process snapshot text today).1
      (process snapshot (text ++ Clause.marker ++ date) today).1 := by
  by_cases hknown : ∃ verb : Verb, (words text).head?.map upper = some verb.keyword
  · obtain ⟨verb, hhead⟩ := hknown
    have hne : words text ≠ [] := fun h => by simp [h] at hhead
    obtain ⟨⟨htokens, hundated⟩, hdatedTokens, hdated⟩ :=
      Reading.ofText_addDate hne hcapitals hon hdate
    rw [← Reading.head?_capitals] at hhead
    exact .of_known hwhole hhead (hdatedTokens.trans htokens.symm) hundated hdated
  · have hunknown : ∀ verb : Verb, (words text).head?.map upper ≠ some verb.keyword :=
      fun verb hhead => hknown ⟨verb, hhead⟩
    have hdatedUnknown : ∀ verb : Verb,
        (words (text ++ Clause.marker ++ date)).head?.map upper ≠ some verb.keyword := by
      intro verb
      rw [words_addDate text hdate]
      cases hwords : words text with
      | nil =>
          change some (upper onKeyword) ≠ some verb.keyword
          cases verb <;> decide
      | cons first rest =>
          rw [hwords] at hunknown
          exact hunknown verb
    have hmalformed : ∀ text : Text,
        (∀ verb : Verb, (words text).head?.map upper ≠ some verb.keyword) →
          process snapshot text today = (.of {} .malformed snapshot [], none) := by
      intro text hunknown
      simp only [← Reading.head?_capitals] at hunknown
      exact process_of_outcome_ok (outcome_of_refused (Match.ofTokens_of_unknown hunknown _))
    rw [hmalformed text hunknown, hmalformed _ hdatedUnknown]
    exact .of_malformed rfl

/-- A transfer that would be executed waits for the next day, the last one of a leap month. -/
theorem process_addDate_leap_day :
    let snapshot : Snapshot := [⟨"a", .whole 500, "ngn"⟩, ⟨"b", .whole (-3), "NGN"⟩]
    let text : Text := "debit 100 ngn from account a for credit to account b "
    let before := (process snapshot text ⟨2024, 2, 28⟩).1
    let after := (process snapshot (text ++ Clause.marker ++ "2024-02-29") ⟨2024, 2, 28⟩).1
    before.code = .executed ∧ after.code = .scheduled ∧
      AddsDate snapshot ⟨2024, 2, 28⟩ "2024-02-29" before after := by
  intro snapshot text before after
  have hwhole : ∀ account ∈ snapshot, ∃ balance, account.balance = .whole balance := by
    simp [snapshot]
  exact ⟨by decide +kernel, by decide +kernel,
    process_addDate hwhole (by decide) (by decide) ⟨by decide, by decide⟩ ⟨2024, 2, 28⟩⟩

end Remittance
