import Remittance.Balance
import Remittance.Text.CodePoint

namespace Remittance

structure Account where
  id : Text
  balance : Balance
  currency : Text
deriving Repr, DecidableEq

abbrev Snapshot := List Account

namespace Snapshot

/-- The first record with an id. -/
def lookup? (snapshot : Snapshot) : Option Text → Option Account
  | none => none
  | some id => snapshot.find? (·.id == id)

@[simp] theorem lookup?_none (snapshot : Snapshot) : snapshot.lookup? none = none := rfl

theorem lookup?_sound {snapshot : Snapshot} {id : Text} {account : Account}
    (h : snapshot.lookup? (some id) = some account) : account ∈ snapshot ∧ account.id = id :=
  ⟨List.mem_of_find?_eq_some h, by simpa using List.find?_some h⟩

theorem lookup?_complete {snapshot : Snapshot} {account : Account} (h : account ∈ snapshot) :
    ∃ first, snapshot.lookup? (some account.id) = some first := by
  cases hfind : snapshot.lookup? (some account.id) with
  | some first => exact ⟨first, rfl⟩
  | none =>
      have := List.find?_eq_none.mp hfind account h
      simp at this

end Snapshot

end Remittance
