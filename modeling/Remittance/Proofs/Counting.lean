import Remittance.Metrics
import Remittance.Proofs.Overflow

namespace Remittance.Binary64

/-! Ones are added up exactly as far as the whole numbers lie one apart in the format. -/

/-- What so many ones add up to. -/
def counted : Nat → Binary64
  | 0 => zero false
  | n + 1 => (counted n).add one

end Remittance.Binary64
