import Remittance.Balance
import Remittance.Result

namespace Remittance

abbrev Series (α : Type) := List (List String × α)

namespace Series

variable {α : Type}

def value? (series : Series α) (labels : List String) : Option α :=
  (series.find? (·.1 == labels)).map (·.2)

@[simp] theorem value?_nil (labels : List String) : value? ([] : Series α) labels = none := rfl

theorem value?_cons (first : List String × α) (rest : Series α) (labels : List String) :
    value? (first :: rest) labels =
      if first.1 = labels then some first.2 else value? rest labels := by
  by_cases h : first.1 = labels <;> simp [value?, h]

def insertRow (row : List String × α) : Series α → Series α
  | [] => [row]
  | first :: rest => if row.1 < first.1 then row :: first :: rest else first :: insertRow row rest

def replace (labels : List String) (value : α) : Series α → Series α
  | [] => []
  | first :: rest =>
      if first.1 = labels then (labels, value) :: rest else first :: replace labels value rest

/-- Changes the value at a row of labels, which is added in its place if it is new. -/
def update (labels : List String) (change : Option α → α) (series : Series α) : Series α :=
  match series.value? labels with
  | some value => series.replace labels (change (some value))
  | none => series.insertRow (labels, change none)

theorem value?_insertRow (row : List String × α) (series : Series α)
    (hnew : series.value? row.1 = none) (other : List String) :
    (series.insertRow row).value? other =
      if row.1 = other then some row.2 else series.value? other := by
  induction series with
  | nil => simp [insertRow, value?_cons]
  | cons first rest ih =>
      by_cases hfirst : first.1 = row.1
      · simp [value?_cons, hfirst] at hnew
      · have hrest : value? rest row.1 = none := by simpa [value?_cons, hfirst] using hnew
        by_cases hlt : row.1 < first.1
        · simp [insertRow, hlt, value?_cons]
        · by_cases h : first.1 = other
          · subst h
            simp [insertRow, hlt, value?_cons, Ne.symm hfirst]
          · simp [insertRow, hlt, value?_cons, h, ih hrest]

theorem value?_replace (labels : List String) (value : α) (series : Series α)
    (hold : (series.value? labels).isSome) (other : List String) :
    (series.replace labels value).value? other =
      if labels = other then some value else series.value? other := by
  induction series with
  | nil => simp at hold
  | cons first rest ih =>
      by_cases hfirst : first.1 = labels
      · by_cases h : labels = other <;> simp [replace, hfirst, value?_cons, h]
      · have hrest : (value? rest labels).isSome := by simpa [value?_cons, hfirst] using hold
        by_cases h : first.1 = other
        · subst h
          simp [replace, hfirst, value?_cons, Ne.symm hfirst]
        · simp [replace, hfirst, value?_cons, h, ih hrest]

@[simp] theorem value?_update (labels : List String) (change : Option α → α) (series : Series α)
    (other : List String) :
    (series.update labels change).value? other =
      if labels = other then some (change (series.value? labels)) else series.value? other := by
  unfold update
  cases hvalue : series.value? labels with
  | none => exact value?_insertRow (labels, change none) series hvalue other
  | some value =>
      exact value?_replace labels (change (some value)) series (by simp [hvalue]) other

def add (labels : List String) (x : Binary64) : Series Binary64 → Series Binary64 :=
  update labels fun total => (total.getD (Binary64.zero false)).add x

@[simp] theorem value?_add (labels : List String) (x : Binary64) (series : Series Binary64)
    (row : List String) :
    (series.add labels x).value? row =
      if labels = row then some (((series.value? row).getD (Binary64.zero false)).add x)
      else series.value? row := by
  rw [add, value?_update]
  split
  · rename_i hsame
    rw [hsame]
  · rfl

def wholes (series : Series Binary64) : Series Nat :=
  series.map fun row => (row.1, row.2.wholePart)

end Series

/-! Metrics count results by status and code, add up what was moved in each currency, and count
requests by method, endpoint and status, however long they took. A count is a total of ones. -/

structure Metrics where
  outcomes : Series Binary64 := []
  amounts : Series Binary64 := []
  answers : Series Binary64 := []
deriving Repr, DecidableEq

namespace Metrics

def empty : Metrics := {}

def instructions (metrics : Metrics) : Series Nat :=
  metrics.outcomes.wholes

def requests (metrics : Metrics) : Series Nat :=
  metrics.answers.wholes

/-- A total starts at zero as soon as there is something to add to it. -/
def start (metrics : Metrics) (currency : String) : Metrics :=
  { metrics with
    amounts := metrics.amounts.update [currency] (·.getD (Binary64.zero false)) }

def add (metrics : Metrics) (currency : String) (amount : Binary64) : Metrics :=
  { metrics with amounts := metrics.amounts.add [currency] amount }

def countInstruction (metrics : Metrics) (status code : String) : Metrics :=
  { metrics with outcomes := metrics.outcomes.add [status, code] Binary64.one }

def countRequest (metrics : Metrics) (method endpoint status : String) : Metrics :=
  { metrics with answers := metrics.answers.add [method, endpoint, status] Binary64.one }

/-- What an amount adds to a total: totals do not shrink. -/
def addend (amount : Int) : Except Fault Binary64 :=
  if amount < 0 then .error .negativeIncrement else Balance.binaryAmount amount

/-- Adds a moved amount to the total of its currency, which starts even if that fails. -/
def addAmount (metrics : Metrics) (currency : String) (amount : Int) : Metrics × Option Fault :=
  match addend amount with
  | .ok x => ((metrics.start currency).add currency x, none)
  | .error fault => (metrics.start currency, some fault)

/-- Counts a result first; a successful one then adds its amount, which may fail. -/
def record (metrics : Metrics) (status code : String) (amount : Option Int)
    (currency : Option String) : Metrics × Option Fault :=
  let counted := metrics.countInstruction status code
  match amount, currency with
  | some amount, some currency =>
      if status = Status.successful.text then counted.addAmount currency amount
      else (counted, none)
  | _, _ => (counted, none)

def recordResult (metrics : Metrics) (result : Result) : Metrics × Option Fault :=
  metrics.record result.status.text result.code.text result.instruction.amount
    (result.instruction.currency.map Text.toString)

private theorem addAmount_eq (metrics : Metrics) (currency : String) (amount : Int) :
    ∃ amounts, (metrics.addAmount currency amount).1 = { metrics with amounts } := by
  unfold addAmount
  cases addend amount with
  | ok x => exact ⟨_, rfl⟩
  | error fault => exact ⟨_, rfl⟩

private theorem record_eq (metrics : Metrics) (status code : String) (amount : Option Int)
    (currency : Option String) :
    ∃ amounts, (metrics.record status code amount currency).1 =
      { metrics.countInstruction status code with amounts } := by
  cases amount with
  | none => exact ⟨_, rfl⟩
  | some amount =>
      cases currency with
      | none => exact ⟨_, rfl⟩
      | some currency =>
          simp only [record]
          split
          · exact addAmount_eq _ currency amount
          · exact ⟨_, rfl⟩

@[simp] theorem answers_record (metrics : Metrics) (status code : String) (amount : Option Int)
    (currency : Option String) :
    (metrics.record status code amount currency).1.answers = metrics.answers := by
  obtain ⟨amounts, h⟩ := metrics.record_eq status code amount currency
  rw [h]
  rfl

@[simp] theorem outcomes_record (metrics : Metrics) (status code : String)
    (amount : Option Int) (currency : Option String) :
    (metrics.record status code amount currency).1.outcomes =
      metrics.outcomes.add [status, code] Binary64.one := by
  obtain ⟨amounts, h⟩ := metrics.record_eq status code amount currency
  rw [h]
  rfl

end Metrics

end Remittance
