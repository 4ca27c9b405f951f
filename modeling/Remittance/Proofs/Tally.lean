import Mathlib.Data.List.Basic
import Mathlib.Data.List.Nodup
import Remittance.Proofs.Answer
import Remittance.Proofs.Counting

namespace Remittance

open Remittance.Text

namespace Series

variable {α : Type} {series : Series α}

private theorem map_fst_replace (labels : List String) (value : α) (series : Series α) :
    (series.replace labels value).map Prod.fst = series.map Prod.fst := by
  induction series with
  | nil => rfl
  | cons first rest ih =>
      rw [replace]
      split
      · rename_i hfirst
        rw [List.map_cons, List.map_cons, hfirst]
      · rw [List.map_cons, List.map_cons, ih]

private theorem perm_insertRow (row : List String × α) (series : Series α) :
    (series.insertRow row).Perm (row :: series) := by
  induction series with
  | nil => exact .refl _
  | cons first rest ih =>
      rw [insertRow]
      split
      · exact .refl _
      · exact (ih.cons first).trans (.swap ..)

private theorem value?_eq_none_iff {labels : List String} :
    series.value? labels = none ↔ labels ∉ series.map Prod.fst := by
  rw [value?, Option.map_eq_none_iff, List.find?_eq_none, List.mem_map]
  simp only [beq_iff_eq, not_exists, not_and]

private theorem nodup_update (h : (series.map Prod.fst).Nodup) (labels : List String)
    (change : Option α → α) : ((series.update labels change).map Prod.fst).Nodup := by
  unfold update
  cases hvalue : series.value? labels with
  | some value => rwa [map_fst_replace]
  | none =>
      rw [((perm_insertRow _ series).map Prod.fst).nodup_iff]
      exact List.nodup_cons.mpr ⟨value?_eq_none_iff.mp hvalue, h⟩

/-- A series that counts a list of labels: a row for each that occurs, with a one for each time. -/
structure Counts (series : Series Binary64) (occurred : List (List String)) : Prop where
  nodup : (series.map Prod.fst).Nodup
  value?_eq : ∀ labels, series.value? labels =
    if labels ∈ occurred then some (Binary64.counted (occurred.count labels)) else none

end Series

namespace Series.Counts

variable {series other : Series Binary64} {occurred others : List (List String)}

theorem nil : Counts [] [] where
  nodup := .nil
  value?_eq := fun _ => rfl

private theorem getD_eq (h : series.Counts occurred) (labels : List String) :
    (series.value? labels).getD (Binary64.zero false) =
      Binary64.counted (occurred.count labels) := by
  rw [h.value?_eq]
  split
  · rfl
  · rename_i habsent
    rw [Option.getD_none, List.count_eq_zero_of_not_mem habsent]
    rfl

theorem add (h : series.Counts occurred) (labels : List String) :
    (series.add labels Binary64.one).Counts (occurred ++ [labels]) where
  nodup := nodup_update h.nodup labels _
  value?_eq := by
    intro other
    rw [value?_add, List.count_append, h.getD_eq]
    by_cases hsame : labels = other
    · subst hsame
      simp [Binary64.counted]
    · simp [hsame, Ne.symm hsame, h.value?_eq]

end Series.Counts

namespace Binary64

/-- The sum from zero of the whole numbers that are within the binary ones. -/
def total (amounts : List Int) : Binary64 :=
  (amounts.filterMap ofInt?).foldl add (zero false)

theorem total_append (amounts : List Int) (amount : Int) :
    total (amounts ++ [amount]) =
      ((ofInt? amount).map (total amounts).add).getD (total amounts) := by
  rw [total, List.filterMap_append, List.foldl_append]
  cases hbinary : ofInt? amount with
  | none => simp [hbinary, total]
  | some x => simp [hbinary, total]

end Binary64

/-- A series that adds up amounts by their labels. -/
structure Series.Sums (series : Series Binary64) (moved : List (List String × Int)) : Prop where
  nodup : (series.map Prod.fst).Nodup
  value?_eq : ∀ labels, series.value? labels =
    if labels ∈ moved.map Prod.fst then
      some (Binary64.total ((moved.filter (·.1 = labels)).map Prod.snd))
    else none

namespace Series.Sums

variable {series : Series Binary64} {moved : List (List String × Int)}

theorem nil : Sums [] [] where
  nodup := .nil
  value?_eq := fun _ => rfl

private theorem getD_eq (h : series.Sums moved) (labels : List String) :
    (series.value? labels).getD (Binary64.zero false) =
      Binary64.total ((moved.filter (·.1 = labels)).map Prod.snd) := by
  rw [h.value?_eq]
  split
  · rfl
  · rename_i habsent
    have hnone : moved.filter (·.1 = labels) = [] := by
      rw [List.filter_eq_nil_iff]
      intro row hrow hlabels
      exact habsent (List.mem_map.mpr ⟨row, hrow, of_decide_eq_true hlabels⟩)
    rw [hnone]
    rfl

end Series.Sums

namespace Result

/-- The labels under which a result is counted. -/
def labels (result : Result) : List String :=
  [result.status.text, result.code.text]

/-- What an executed result has moved, under the label of its currency. -/
def moved? (result : Result) : Option (List String × Int) :=
  match result.code, result.instruction.currency, result.instruction.amount with
  | .executed, some currency, some amount => some ([currency.toString], amount)
  | _, _, _ => none

variable {result : Result}

private theorem moved?_of_executed (hexecuted : result.code = .executed) {currency : Text}
    (hcurrency : result.instruction.currency = some currency) {amount : Int}
    (hamount : result.instruction.amount = some amount) :
    result.moved? = some ([currency.toString], amount) := by
  rw [moved?, hexecuted, hcurrency, hamount]

private theorem moved?_of_not_executed (h : result.code ≠ .executed) : result.moved? = none := by
  unfold moved?
  split
  · rename_i hexecuted _ _
    exact absurd hexecuted h
  · rfl

end Result

namespace Metrics

variable {metrics : Metrics} {moved : List (List String × Int)} {result : Result}
  {results : List Result} {answered : List (List String)}

private theorem value?_addAmount {amount : Int} (hpos : 0 ≤ amount) (metrics : Metrics)
    (currency : String)
    (labels : List String) :
    let total := (metrics.amounts.value? labels).getD (Binary64.zero false)
    (metrics.addAmount currency amount).1.amounts.value? labels =
      if [currency] = labels then some (((Binary64.ofInt? amount).map total.add).getD total)
      else metrics.amounts.value? labels := by
  intro total
  rw [addAmount, addend, if_neg (Int.not_lt.mpr hpos), Balance.binaryAmount]
  by_cases hsame : [currency] = labels
  · cases Binary64.ofInt? amount <;> simp [start, Metrics.add, hsame, total]
  · cases Binary64.ofInt? amount <;> simp [start, Metrics.add, hsame]

private theorem nodup_addAmount (h : (metrics.amounts.map Prod.fst).Nodup) (currency : String)
    (amount : Int) : ((metrics.addAmount currency amount).1.amounts.map Prod.fst).Nodup := by
  cases haddend : addend amount with
  | error fault =>
      simp only [addAmount, haddend, start]
      exact Series.nodup_update h ..
  | ok x =>
      simp only [addAmount, haddend, start, add]
      exact Series.nodup_update (Series.nodup_update h ..) ..

private theorem sums_addAmount (metrics : Metrics) (h : metrics.amounts.Sums moved) {amount : Int}
    (hpos : 0 ≤ amount) (currency : String) :
    (metrics.addAmount currency amount).1.amounts.Sums (moved ++ [([currency], amount)]) where
  nodup := nodup_addAmount h.nodup currency amount
  value?_eq := by
    intro labels
    rw [value?_addAmount hpos, h.getD_eq]
    by_cases hsame : [currency] = labels
    · simp [hsame, Binary64.total_append]
    · have hmem : labels ∈ (moved ++ [([currency], amount)]).map Prod.fst ↔
          labels ∈ moved.map Prod.fst := by
        simp [Ne.symm hsame]
      have hfilter : (moved ++ [([currency], amount)]).filter (·.1 = labels) =
          moved.filter (·.1 = labels) := by
        simp [hsame]
      rw [if_neg hsame, h.value?_eq, hfilter]
      exact if_congr hmem.symm rfl rfl

private theorem amounts_recordResult_of_ne (h : result.code ≠ .executed) (metrics : Metrics) :
    (metrics.recordResult result).1.amounts = metrics.amounts := by
  have hstatus : result.status.text ≠ Status.successful.text := fun htext =>
    h (Code.status_eq_successful_iff.mp (Status.text_injective htext))
  unfold recordResult record
  simp only [if_neg hstatus]
  split <;> rfl

private theorem sums_recordResult (h : metrics.amounts.Sums moved)
    (hcomplete : result.code = .executed → result.instruction.Complete) :
    (metrics.recordResult result).1.amounts.Sums (moved ++ result.moved?.toList) := by
  by_cases hexecuted : result.code = .executed
  · obtain ⟨amount, hamount, hpos⟩ := (hcomplete hexecuted).amount
    obtain ⟨currency, _, hcurrency⟩ := (hcomplete hexecuted).currency
    have hstatus : result.status.text = Status.successful.text :=
      congrArg Status.text (Code.status_eq_successful_iff.mpr hexecuted)
    rw [Result.moved?_of_executed hexecuted hcurrency hamount, recordResult, hamount, hcurrency,
      Option.map_some, record, if_pos hstatus]
    exact sums_addAmount (metrics.countInstruction ..) h (show 0 ≤ amount by omega) _
  · rw [amounts_recordResult_of_ne hexecuted, Result.moved?_of_not_executed hexecuted,
      Option.toList_none, List.append_nil]
    exact h

/-- Metrics that count certain results, add up what they moved, and count the requests that were
answered by their labels. -/
structure Tallies (metrics : Metrics) (results : List Result) (answered : List (List String)) :
    Prop where
  outcomes : metrics.outcomes.Counts (results.map Result.labels)
  amounts : metrics.amounts.Sums (results.filterMap Result.moved?)
  answers : metrics.answers.Counts answered

theorem Tallies.empty : Tallies {} [] [] where
  outcomes := .nil
  amounts := .nil
  answers := .nil

theorem Tallies.recordResult (h : metrics.Tallies results answered)
    (hcomplete : result.code = .executed → result.instruction.Complete) :
    (metrics.recordResult result).1.Tallies (results ++ [result]) answered where
  outcomes := by
    rw [List.map_append, Metrics.recordResult, outcomes_record]
    exact h.outcomes.add result.labels
  amounts := by
    rw [List.filterMap_append, List.filterMap_eq_flatMap_toList _ [result], List.flatMap_singleton]
    exact sums_recordResult h.amounts hcomplete
  answers := by
    rw [Metrics.recordResult, answers_record]
    exact h.answers

end Metrics

namespace Service

variable {metrics : Metrics} {results : List Result} {answered : List (List String)}
  {request : Request} {answer : Answer} {today : Date} {result : Result}

def run (settings : Settings) (metrics : Metrics) :
    List (Request × Date) → List (Request × Answer) × Metrics
  | [] => ([], metrics)
  | (request, today) :: turns =>
      let (answer, counted) := handle settings today metrics request
      let (answers, last) := run settings counted turns
      ((request, answer) :: answers, last)

end Service

end Remittance
