import Remittance.Proofs.Syntax

namespace Remittance

open Remittance.Text

variable {snapshot : Snapshot} {text : Text} {today later : Date} {result : Result}

namespace Date

variable {parts : Int × Int × Int}

private theorem orderParts_eq_gt_iff {date : Date} :
    orderParts parts date = .gt ↔ date.year < parts.1 ∨ date.year = parts.1 ∧
      ((date.month : Int) < parts.2.1 ∨ date.month = parts.2.1 ∧ (date.day : Int) < parts.2.2) := by
  simp only [orderParts, Ordering.then_eq_gt, Int.compare_eq_gt, Int.compare_eq_eq]
  rw [@eq_comm _ parts.1, @eq_comm _ parts.2.1]

private theorem orderParts_ne_gt_of_not_isAfter (h : ¬ today.IsAfter later)
    (hdue : orderParts parts today ≠ .gt) : orderParts parts later ≠ .gt := by
  rw [IsAfter] at h
  rw [ne_eq, orderParts_eq_gt_iff] at hdue ⊢
  omega

end Date

/-! Of the rules only the schedule looks at the day, so only its code is ever lifted as days
pass. -/

namespace Rule

variable {c : Case}

private theorem check_later (h : ¬ c.today.IsAfter later) (rule : Rule) :
    rule.check c = .ok (some .scheduled) ∨ rule.check { c with today := later } = rule.check c := by
  cases rule with
  | schedule =>
      cases hexecuteBy : c.instruction.executeBy with
      | none => exact .inr (by simp only [check, checkSchedule, hexecuteBy])
      | some executeBy =>
          simp only [check, checkSchedule, hexecuteBy, Date.compareText]
          cases Date.readParts executeBy with
          | error fault => exact .inr rfl
          | ok parts =>
              by_cases hdue : Date.orderParts parts c.today = .gt
              · exact .inl (by simp [Except.map, hdue])
              · have hlater := Date.orderParts_ne_gt_of_not_isAfter h hdue
                exact .inr (by simp [Except.map, hdue, hlater])
  | _ => exact .inr rfl

private theorem firstCode_later (h : ¬ c.today.IsAfter later) (rules : List Rule) :
    firstCode c rules = .ok (some .scheduled) ∨
      firstCode { c with today := later } rules = firstCode c rules := by
  induction rules with
  | nil => exact .inr rfl
  | cons rule rules ih =>
      rcases check_later h rule with hheld | hsame
      · exact .inl (firstCode_cons_of_some hheld rules)
      · cases hrule : rule.check c with
        | error fault =>
            rw [hrule] at hsame
            exact .inr (by rw [firstCode_cons_of_error hrule, firstCode_cons_of_error hsame])
        | ok code? =>
            rw [hrule] at hsame
            cases code? with
            | some code =>
                exact .inr (by rw [firstCode_cons_of_some hrule, firstCode_cons_of_some hsame])
            | none =>
                rw [firstCode_cons_of_none hrule, firstCode_cons_of_none hsame]
                exact ih

end Rule

private theorem settle_later (h : ¬ today.IsAfter later) (instruction : Instruction) :
    settle instruction snapshot today = .ok (.of instruction .scheduled snapshot []) ∨
      settle instruction snapshot later = settle instruction snapshot today := by
  have hcase : Case.ofSnapshot instruction snapshot later =
      { Case.ofSnapshot instruction snapshot today with today := later } := rfl
  have hday : ¬ (Case.ofSnapshot instruction snapshot today).today.IsAfter later := h
  rcases Rule.firstCode_later hday Rule.precedence with hheld | hsame
  · have hschedule : Rule.firstCode (.ofSnapshot instruction snapshot today) Rule.precedence =
        .ok (some Rule.schedule.code) := hheld
    exact .inl (settle_of_refused hschedule)
  · right
    rw [settle, settle, Verdict.of_eq_map, Verdict.of_eq_map, hcase, hsame]

theorem outcome_later (h : ¬ today.IsAfter later) (snapshot : Snapshot) (text : Text) :
    (∃ result, outcome snapshot text today = .ok result ∧ result.code = .scheduled) ∨
      outcome snapshot text later = outcome snapshot text today := by
  rw [outcome_eq_ofText, outcome_eq_ofText]
  cases Match.ofText text with
  | error fault => exact .inr rfl
  | ok found =>
      cases hfailure : found.failure with
      | some code => exact .inr (by simp only [bind, Except.bind, hfailure])
      | none =>
          simp only [bind, Except.bind, hfailure]
          rcases settle_later h found.instruction with hheld | hsame
          · exact .inl ⟨_, hheld, rfl⟩
          · exact .inr hsame

private theorem outcome_unique_of_scheduled {day : Date} {other : Result}
    (h : outcome snapshot text today = .ok result) (hother : outcome snapshot text day = .ok other)
    (hcode : result.code = .scheduled) (hotherCode : other.code = .scheduled) :
    result = other := by
  obtain ⟨found, hfound, htells⟩ := exists_tells_of_outcome h
  obtain ⟨same, hsame, halso⟩ := exists_tells_of_outcome hother
  obtain rfl := Except.ok.inj (hfound.symm.trans hsame)
  have hinstruction := htells.instruction.trans halso.instruction.symm
  refine Result.eq_of_views hinstruction (hcode.trans hotherCode.symm) ?_
  rw [(ends_of_outcome h).views_of_code_ne_executed (by rw [hcode]; decide),
    (ends_of_outcome hother).views_of_code_ne_executed (by rw [hotherCode]; decide), hinstruction]

private theorem outcome_of_process_scheduled
    (h : (process snapshot text today).1.code = .scheduled) :
    ∃ result, outcome snapshot text today = .ok result ∧ result.code = .scheduled := by
  rw [process] at h
  cases houtcome : outcome snapshot text today with
  | error fault =>
      rw [houtcome] at h
      cases h
  | ok result =>
      rw [houtcome] at h
      exact ⟨result, rfl, h⟩

private theorem process_eq_of_scheduled {day : Date}
    (h : (process snapshot text today).1.code = .scheduled)
    (hday : (process snapshot text day).1.code = .scheduled) :
    process snapshot text today = process snapshot text day := by
  obtain ⟨result, hresult, hcode⟩ := outcome_of_process_scheduled h
  obtain ⟨other, hother, hotherCode⟩ := outcome_of_process_scheduled hday
  rw [process_of_outcome_ok hresult, process_of_outcome_ok hother,
    outcome_unique_of_scheduled hresult hother hcode hotherCode]

theorem process_later (h : ¬ today.IsAfter later)
    (hcode : (process snapshot text today).1.code ≠ .scheduled) :
    process snapshot text later = process snapshot text today := by
  rcases outcome_later h snapshot text with ⟨result, hresult, hheld⟩ | hsame
  · rw [process_of_outcome_ok hresult] at hcode
    exact absurd hheld hcode
  · rw [process, process, hsame]

theorem process_earlier (h : ¬ today.IsAfter later)
    (hcode : (process snapshot text later).1.code = .scheduled) :
    process snapshot text today = process snapshot text later := by
  by_cases hheld : (process snapshot text today).1.code = .scheduled
  · exact process_eq_of_scheduled hheld hcode
  · exact (process_later h hheld).symm

theorem exists_results_as_days_pass (snapshot : Snapshot) (text : Text) {days : List Date}
    (hdays : days.Pairwise fun today later => ¬ today.IsAfter later) :
    ∃ pending final : Result, pending.code = .scheduled ∧ final.code ≠ .scheduled ∧
      ∃ held left, days.map (fun day => (process snapshot text day).1) =
        List.replicate held pending ++ List.replicate left final := by
  induction days with
  | nil =>
      exact ⟨⟨.empty, .scheduled, []⟩, .malformed, rfl, by decide, 0, 0, rfl⟩
  | cons today days ih =>
      obtain ⟨hfirst, hdays⟩ := List.pairwise_cons.mp hdays
      obtain ⟨pending, final, hpending, hfinal, held, left, hresults⟩ := ih hdays
      by_cases hcode : (process snapshot text today).1.code = .scheduled
      · cases held with
        | zero =>
            refine ⟨_, final, hcode, hfinal, 1, left, ?_⟩
            rw [List.map_cons, hresults]
            rfl
        | succ held =>
            -- the first of the later days is pending, so this day shows the same result
            obtain ⟨next, hnext, hresult⟩ :
                ∃ next ∈ days, (process snapshot text next).1 = pending := by
              rw [← List.mem_map, hresults]
              simp
            have hsame := process_earlier (hfirst next hnext) (by rw [hresult, hpending])
            refine ⟨pending, final, hpending, hfinal, held + 2, left, ?_⟩
            rw [List.map_cons, hresults, hsame, hresult]
            rfl
      · refine ⟨pending, _, hpending, hcode, 0, days.length + 1, ?_⟩
        rw [List.map_cons, List.replicate_succ, List.replicate_zero, List.nil_append]
        congr 1
        rw [List.eq_replicate_iff, List.length_map]
        refine ⟨rfl, fun result hresult => ?_⟩
        obtain ⟨later, hlater, rfl⟩ := List.mem_map.mp hresult
        rw [process_later (hfirst later hlater) hcode]

/-- A result that is not pending stays as it is on every later day, and a pending one was the same
on every earlier day: in the course of time it changes once at most, from pending to final. -/
theorem process_as_days_pass (snapshot : Snapshot) (text : Text) :
    (∀ today later : Date, ¬ today.IsAfter later →
      ((process snapshot text today).1.code ≠ .scheduled →
        process snapshot text later = process snapshot text today) ∧
      ((process snapshot text later).1.code = .scheduled →
        process snapshot text today = process snapshot text later)) ∧
    ∀ days : List Date, (days.Pairwise fun today later => ¬ today.IsAfter later) →
      ∃ pending final : Result, pending.code = .scheduled ∧ final.code ≠ .scheduled ∧
        ∃ held left, days.map (fun day => (process snapshot text day).1) =
          List.replicate held pending ++ List.replicate left final := by
  refine ⟨fun today later h => ⟨process_later h, process_earlier h⟩, fun days hdays => ?_⟩
  exact exists_results_as_days_pass snapshot text hdays

/-- Two days before the date, in another month and another year, and two from the date on. -/
theorem process_as_days_pass_into_month :
    let snapshot : Snapshot := [⟨"a", .whole 500, "NGN"⟩, ⟨"b", .binary (.zero true), "NGN"⟩]
    let text : Text := "DEBIT 100 NGN FROM ACCOUNT a FOR CREDIT TO ACCOUNT b ON 2025-02-01"
    let days : List Date := [⟨2024, 12, 31⟩, ⟨2025, 1, 31⟩, ⟨2025, 2, 1⟩, ⟨2025, 11, 1⟩]
    (days.map fun day => (process snapshot text day).1.code) =
        [.scheduled, .scheduled, .executed, .executed] ∧
      process snapshot text ⟨2025, 11, 1⟩ = process snapshot text ⟨2025, 2, 1⟩ ∧
      process snapshot text ⟨2024, 12, 31⟩ = process snapshot text ⟨2025, 1, 31⟩ ∧
      ∃ pending final : Result, pending.code = .scheduled ∧ final.code ≠ .scheduled ∧
        ∃ held left, days.map (fun day => (process snapshot text day).1) =
          List.replicate held pending ++ List.replicate left final := by
  intro snapshot text days
  have hdays : days.Pairwise fun today later => ¬ today.IsAfter later := by
    simp [days, Date.IsAfter]
  have hexecuted : (process snapshot text ⟨2025, 2, 1⟩).1.code ≠ .scheduled := by decide +kernel
  have hheld : (process snapshot text ⟨2025, 1, 31⟩).1.code = .scheduled := by decide +kernel
  obtain ⟨hpair, hrun⟩ := process_as_days_pass snapshot text
  refine ⟨by decide +kernel, ?_, ?_, hrun days hdays⟩
  · exact (hpair ⟨2025, 2, 1⟩ ⟨2025, 11, 1⟩ (by simp [Date.IsAfter])).1 hexecuted
  · exact (hpair ⟨2024, 12, 31⟩ ⟨2025, 1, 31⟩ (by simp [Date.IsAfter])).2 hheld

end Remittance
