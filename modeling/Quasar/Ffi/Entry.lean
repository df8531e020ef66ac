import Quasar.Ffi.Wire

/-!
# Entry — the execution entry of the C interface

A pointer argument is an `Option`, absent for a null pointer.  The library is taken as an optimised
build with unwinding panics: a panic of the engine is caught at the boundary and becomes an error
code, and the VM stays as the panic left it.  The release profile of the workspace sets
`panic = "abort"`; under it a call that panics ends the process, and what is said here holds of the
calls before it.  The allocator is taken to grant what is asked of it, and a message to mention at
most 256 keys, as everywhere in the engine's model.
-/

namespace Quasar
namespace Ffi

open Svm (Bytes Crates Runtime QuasarSvm Account ExecutionResult)

/-! ## Return codes -/

def quasarOk : Int32 := 0

def quasarErrNullPointer : Int32 := -1

def quasarErrExecution : Int32 := -4

def quasarErrInternal : Int32 := -99

/-- What a call on the interface leaves behind: the VM, the return code, the thread's last error
and the buffer handed out. -/
structure CallOutcome where
  svm : Option QuasarSvm
  code : Int32
  lastError : Option String
  result : Option Bytes

section ProcessTransaction

variable (cr : Crates) (rt : Runtime) (tryFrom : Conversion)

/-- The accounts as the engine takes them. -/
def svmAccounts (accts : List (Svm.Pubkey × Svm.SolanaAccount)) : List Account :=
  accts.map fun p => Account.fromPair p.1 p.2

/-- The body behind the null checks, within `catch_unwind`. -/
def processTransactionBytes (svm : QuasarSvm) (ixBytes acctBytes : Bytes) : CallOutcome :=
  let failure := fun message : String =>
    { svm := some svm
      code := quasarErrExecution
      lastError := some message
      result := none : CallOutcome }
  match deserializeInstructions ixBytes with
  | .error e => failure s!"Invalid instructions data: {e}"
  | .ok ixs =>
      match deserializeAccounts acctBytes with
      | .error e => failure s!"Invalid accounts data: {e}"
      | .ok accts =>
          match svm.processInstructionChain cr rt ixs (svmAccounts accts) with
          -- A failed execution is a success of the call; the failure is in the result.
          | (svm, .ok execResult) =>
              { svm := some svm
                code := quasarOk
                lastError := none
                result := some (serializeResult tryFrom execResult) }
          | (svm, .error _) =>
              { svm := some svm
                code := quasarErrInternal
                lastError := some "Panic during transaction execution"
                result := none }

/-- `outputs` tells whether both result pointers are there. -/
def quasarSvmProcessTransaction (svm : Option QuasarSvm) (instructions accounts : Option Bytes)
    (outputs : Bool) : CallOutcome :=
  match svm, instructions, accounts, outputs with
  | some svm, some ixBytes, some acctBytes, true =>
      processTransactionBytes cr rt tryFrom svm ixBytes acctBytes
  | svm, _, _, _ =>
      { svm := svm
        code := quasarErrNullPointer
        lastError := some "Null pointer argument"
        result := none }

end ProcessTransaction

end Ffi
end Quasar
