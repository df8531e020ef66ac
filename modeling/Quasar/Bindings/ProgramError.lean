import Quasar.Svm.Error

/-!
# ProgramError — the error union of the bindings

TypeScript and Python declare the same tagged union, which mirrors the engine's enumeration.  Each
decodes it from a status word with its own table.  Numbers are the languages' own, without a width.
-/

namespace Quasar
namespace Bindings

/-- The discriminated union that both bindings declare. -/
inductive ProgramError
  | invalidArgument
  | invalidInstructionData
  | invalidAccountData
  | accountDataTooSmall
  | insufficientFunds
  | incorrectProgramId
  | missingRequiredSignature
  | accountAlreadyInitialized
  | uninitializedAccount
  | missingAccount
  | invalidSeeds
  | arithmeticOverflow
  | accountNotRentExempt
  | invalidAccountOwner
  | incorrectAuthority
  | immutable
  | borshIoError
  | computeBudgetExceeded
  | custom (code : Int)
  | runtime (message : String)
  deriving DecidableEq

/-- The status of an execution as the bindings report it. -/
inductive ExecutionStatus
  | ok
  | error (error : ProgramError)
  deriving DecidableEq

/-- The counterpart of one of the engine's errors. -/
def ProgramError.ofEngine : Svm.ProgramError → ProgramError
  | .invalidArgument => .invalidArgument
  | .invalidInstructionData => .invalidInstructionData
  | .invalidAccountData => .invalidAccountData
  | .accountDataTooSmall => .accountDataTooSmall
  | .insufficientFunds => .insufficientFunds
  | .incorrectProgramId => .incorrectProgramId
  | .missingRequiredSignature => .missingRequiredSignature
  | .accountAlreadyInitialized => .accountAlreadyInitialized
  | .uninitializedAccount => .uninitializedAccount
  | .missingAccount => .missingAccount
  | .invalidSeeds => .invalidSeeds
  | .arithmeticOverflow => .arithmeticOverflow
  | .accountNotRentExempt => .accountNotRentExempt
  | .invalidAccountOwner => .invalidAccountOwner
  | .incorrectAuthority => .incorrectAuthority
  | .immutable => .immutable
  | .borshIoError => .borshIoError
  | .computeBudgetExceeded => .computeBudgetExceeded
  | .custom code => .custom code.toNat
  | .runtime message => .runtime message

/-- Decoding of a status word: a positive status is a custom code, and any other is looked up in the
binding's table, with the fallback text for a status that the table lacks. -/
def decodeStatus (table : Int → Option ProgramError) (fallback : String) (status : Int) :
    ProgramError :=
  if status > 0 then .custom status else (table status).getD (.runtime fallback)

/-- Distinct errors of the engine have distinct counterparts. -/
theorem ProgramError.ofEngine_injective : Function.Injective ProgramError.ofEngine := by
  intro a b h
  cases a with
  | custom m =>
      cases b with
      | custom n =>
          have hcode : (m.toNat : Int) = n.toNat := ProgramError.custom.inj h
          have hnat : m.toNat = n.toNat := by exact_mod_cast hcode
          exact congrArg _ (UInt32.toNat_inj.1 hnat)
      | _ => exact ProgramError.noConfusion h
  | runtime s =>
      cases b with
      | runtime t => exact congrArg _ (ProgramError.runtime.inj h)
      | _ => exact ProgramError.noConfusion h
  | _ => cases b <;> first | rfl | exact ProgramError.noConfusion h

end Bindings
end Quasar
