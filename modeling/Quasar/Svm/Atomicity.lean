import Quasar.Svm.Execution

/-!
# Atomicity — a failed or simulated execution leaves the account store alone

Only one branch of an execution writes to the store: a successful one that commits.  A failed one
reports the merged pre-state twice, however much the transaction context has changed by then.
-/

namespace Quasar
namespace Svm
namespace QuasarSvm

open Lib

variable {cr : Crates} {rt : Runtime} {svm : QuasarSvm} {ixs : List Instruction}
  {accounts : List Account} {commit : Bool} {out : Call ExecutionResult}

namespace Execution

/-- Without a commit the store is the one the call found. -/
theorem accounts_of_simulated (h : Execution cr rt svm ixs accounts false out) :
    out.1.accounts = svm.accounts := by
  cases h with
  | panicked hrun => rfl
  | failed o e hrun hresult => rfl
  | succeeded o hrun hresult => rfl

/-- A call that panics or ends in an error leaves the store as it found it. -/
theorem accounts_of_not_ok (h : Execution cr rt svm ixs accounts commit out)
    (hnot : ∀ r, out.2 = .ok r → r.rawResult ≠ .ok ()) : out.1.accounts = svm.accounts := by
  cases h with
  | panicked hrun => rfl
  | failed o e hrun hresult => rfl
  | succeeded o hrun hresult => exact absurd hresult (hnot _ rfl)

end Execution

end QuasarSvm
end Svm
end Quasar
