import Quasar.Ffi.Entry
import Quasar.Svm.Atomicity

/-!
# Atomicity — the guarantee across the C interface

A call on the interface that returns any code but success leaves the account store as it was: the
buffers did not decode, a pointer was missing, or the engine panicked before it could commit.
-/

namespace Quasar
namespace Ffi

open Svm
open Svm.QuasarSvm

variable {cr : Crates} {rt : Runtime} {tryFrom : Conversion}

/-- Every code but success leaves the account store as it was. -/
theorem accounts_of_code_ne_ok (svm : Option QuasarSvm) (instructions accounts : Option Bytes)
    (outputs : Bool)
    (h : (quasarSvmProcessTransaction cr rt tryFrom svm instructions accounts outputs).code ≠
      quasarOk) :
    (quasarSvmProcessTransaction cr rt tryFrom svm instructions accounts outputs).svm.map
        QuasarSvm.accounts = svm.map QuasarSvm.accounts := by
  unfold quasarSvmProcessTransaction at h ⊢
  split
  · -- No pointer is missing: the code depends on the two buffers and on the engine.
    rename_i svm ixBytes acctBytes
    simp only [processTransactionBytes] at h ⊢
    cases hixs : deserializeInstructions ixBytes with
    | error e => rfl
    | ok ixs =>
        cases haccts : deserializeAccounts acctBytes with
        | error e => rfl
        | ok accts =>
            have hexec := executeInner_execution cr rt svm ixs
              (svmAccounts accts) true
            rw [hixs, haccts] at h
            simp only [processInstructionChain] at h ⊢
            cases hout : svm.executeInner cr rt ixs (svmAccounts accts) true with
            | mk svm' result =>
                rw [hout] at hexec h
                cases result with
                | ok r => exact absurd rfl h
                | error m =>
                    -- The engine panicked while it prepared the instructions.
                    have hsame := hexec.accounts_of_not_ok (by intro r hr; cases hr)
                    exact congrArg some hsame
  · rfl

end Ffi
end Quasar
