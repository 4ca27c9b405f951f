import Remittance.Account

namespace Remittance

structure Entry where
  before : Balance
  after : Balance
deriving Repr, DecidableEq

/-- The balances before and after of each account id that moved money. -/
abbrev Ledger := List (Text × Entry)

namespace Ledger

/-- A later entry with the same id replaces the earlier one in its place. -/
def record : Ledger → Text → Entry → Ledger
  | [], id, entry => [(id, entry)]
  | first :: ledger, id, entry =>
      if first.1 = id then (id, entry) :: ledger else first :: record ledger id entry

def ofEntries (entries : List (Text × Entry)) : Ledger :=
  entries.foldl (fun ledger e => ledger.record e.1 e.2) []

def lookup? (ledger : Ledger) (id : Text) : Option Entry :=
  (ledger.find? (·.1 == id)).map (·.2)

theorem lookup?_record (ledger : Ledger) (id other : Text) (entry : Entry) :
    (ledger.record id entry).lookup? other =
      if id = other then some entry else ledger.lookup? other := by
  induction ledger with
  | nil => by_cases h : id = other <;> simp [record, lookup?, h]
  | cons first ledger ih =>
      unfold lookup? at ih ⊢
      by_cases hfirst : first.1 = id
      · by_cases h : id = other <;> simp [record, hfirst, h]
      · by_cases h : first.1 = other
        · have : id ≠ other := fun heq => hfirst (h.trans heq.symm)
          simp [record, h, this, Ne.symm this]
        · simp [record, hfirst, h, ih]

def transfer (debit credit : Account) (amount : Int) : Except Fault Ledger := do
  let paid ← debit.balance.minus amount
  let received ← credit.balance.plus amount
  pure (ofEntries
    [(debit.id, ⟨debit.balance, paid⟩), (credit.id, ⟨credit.balance, received⟩)])

end Ledger

end Remittance
