import Quasar.Svm.Account

/-!
# Error — the runtime's errors and their classification

`InstructionError` is the error type of the Solana runtime.  `ProgramError` is the engine's own
error enumeration for assertions in tests; `ProgramError.ofInstructionError` maps the first into
the second, with `runtime` as the catch-all that keeps the debug text.
-/

namespace Quasar
namespace Svm

/-! ## Runtime errors -/

inductive InstructionError
  | genericError
  | invalidArgument
  | invalidInstructionData
  | invalidAccountData
  | accountDataTooSmall
  | insufficientFunds
  | incorrectProgramId
  | missingRequiredSignature
  | accountAlreadyInitialized
  | uninitializedAccount
  | unbalancedInstruction
  | modifiedProgramId
  | externalAccountLamportSpend
  | externalAccountDataModified
  | readonlyLamportChange
  | readonlyDataModified
  | duplicateAccountIndex
  | executableModified
  | rentEpochModified
  | notEnoughAccountKeys
  | accountDataSizeChanged
  | accountNotExecutable
  | accountBorrowFailed
  | accountBorrowOutstanding
  | duplicateAccountOutOfSync
  | custom (code : UInt32)
  | invalidError
  | executableDataModified
  | executableLamportChange
  | executableAccountNotRentExempt
  | unsupportedProgramId
  | callDepth
  | missingAccount
  | reentrancyNotAllowed
  | maxSeedLengthExceeded
  | invalidSeeds
  | invalidRealloc
  | computationalBudgetExceeded
  | privilegeEscalation
  | programEnvironmentSetupFailure
  | programFailedToComplete
  | programFailedToCompile
  | immutable
  | incorrectAuthority
  | borshIoError
  | accountNotRentExempt
  | invalidAccountOwner
  | arithmeticOverflow
  | unsupportedSysvar
  | illegalOwner
  | maxAccountsDataAllocationsExceeded
  | maxAccountsExceeded
  | maxInstructionTraceLengthExceeded
  | builtinProgramsMustConsumeComputeUnits
  deriving DecidableEq, Repr

namespace InstructionError

/-- The derived `Debug` text of an error. -/
def debug : InstructionError → String
  | .genericError => "GenericError"
  | .invalidArgument => "InvalidArgument"
  | .invalidInstructionData => "InvalidInstructionData"
  | .invalidAccountData => "InvalidAccountData"
  | .accountDataTooSmall => "AccountDataTooSmall"
  | .insufficientFunds => "InsufficientFunds"
  | .incorrectProgramId => "IncorrectProgramId"
  | .missingRequiredSignature => "MissingRequiredSignature"
  | .accountAlreadyInitialized => "AccountAlreadyInitialized"
  | .uninitializedAccount => "UninitializedAccount"
  | .unbalancedInstruction => "UnbalancedInstruction"
  | .modifiedProgramId => "ModifiedProgramId"
  | .externalAccountLamportSpend => "ExternalAccountLamportSpend"
  | .externalAccountDataModified => "ExternalAccountDataModified"
  | .readonlyLamportChange => "ReadonlyLamportChange"
  | .readonlyDataModified => "ReadonlyDataModified"
  | .duplicateAccountIndex => "DuplicateAccountIndex"
  | .executableModified => "ExecutableModified"
  | .rentEpochModified => "RentEpochModified"
  | .notEnoughAccountKeys => "NotEnoughAccountKeys"
  | .accountDataSizeChanged => "AccountDataSizeChanged"
  | .accountNotExecutable => "AccountNotExecutable"
  | .accountBorrowFailed => "AccountBorrowFailed"
  | .accountBorrowOutstanding => "AccountBorrowOutstanding"
  | .duplicateAccountOutOfSync => "DuplicateAccountOutOfSync"
  | .custom code => "Custom(" ++ toString code.toNat ++ ")"
  | .invalidError => "InvalidError"
  | .executableDataModified => "ExecutableDataModified"
  | .executableLamportChange => "ExecutableLamportChange"
  | .executableAccountNotRentExempt => "ExecutableAccountNotRentExempt"
  | .unsupportedProgramId => "UnsupportedProgramId"
  | .callDepth => "CallDepth"
  | .missingAccount => "MissingAccount"
  | .reentrancyNotAllowed => "ReentrancyNotAllowed"
  | .maxSeedLengthExceeded => "MaxSeedLengthExceeded"
  | .invalidSeeds => "InvalidSeeds"
  | .invalidRealloc => "InvalidRealloc"
  | .computationalBudgetExceeded => "ComputationalBudgetExceeded"
  | .privilegeEscalation => "PrivilegeEscalation"
  | .programEnvironmentSetupFailure => "ProgramEnvironmentSetupFailure"
  | .programFailedToComplete => "ProgramFailedToComplete"
  | .programFailedToCompile => "ProgramFailedToCompile"
  | .immutable => "Immutable"
  | .incorrectAuthority => "IncorrectAuthority"
  | .borshIoError => "BorshIoError"
  | .accountNotRentExempt => "AccountNotRentExempt"
  | .invalidAccountOwner => "InvalidAccountOwner"
  | .arithmeticOverflow => "ArithmeticOverflow"
  | .unsupportedSysvar => "UnsupportedSysvar"
  | .illegalOwner => "IllegalOwner"
  | .maxAccountsDataAllocationsExceeded => "MaxAccountsDataAllocationsExceeded"
  | .maxAccountsExceeded => "MaxAccountsExceeded"
  | .maxInstructionTraceLengthExceeded => "MaxInstructionTraceLengthExceeded"
  | .builtinProgramsMustConsumeComputeUnits => "BuiltinProgramsMustConsumeComputeUnits"

end InstructionError

/-! ## The engine's error enumeration -/

/-- Errors returned by program execution: common program errors, program-specific codes, and a
catch-all for the runtime's internal errors. -/
inductive ProgramError
  | invalidArgument
  | invalidInstructionData
  | invalidAccountData
  | accountDataTooSmall
  | insufficientFunds
  | incorrectProgramId
  | missingRequiredSignature
  | accountAlreadyInitialized
  | uninitializedAccount
  | missingAccount
  | invalidSeeds
  | arithmeticOverflow
  | accountNotRentExempt
  | invalidAccountOwner
  | incorrectAuthority
  | immutable
  | borshIoError
  | computeBudgetExceeded
  | custom (code : UInt32)
  | runtime (message : String)
  deriving DecidableEq, Repr

namespace ProgramError

def ofInstructionError : InstructionError → ProgramError
  | .invalidArgument => .invalidArgument
  | .invalidInstructionData => .invalidInstructionData
  | .invalidAccountData => .invalidAccountData
  | .accountDataTooSmall => .accountDataTooSmall
  | .insufficientFunds => .insufficientFunds
  | .incorrectProgramId => .incorrectProgramId
  | .missingRequiredSignature => .missingRequiredSignature
  | .accountAlreadyInitialized => .accountAlreadyInitialized
  | .uninitializedAccount => .uninitializedAccount
  | .missingAccount | .notEnoughAccountKeys => .missingAccount
  | .invalidSeeds => .invalidSeeds
  | .arithmeticOverflow => .arithmeticOverflow
  | .accountNotRentExempt => .accountNotRentExempt
  | .invalidAccountOwner => .invalidAccountOwner
  | .incorrectAuthority => .incorrectAuthority
  | .immutable => .immutable
  | .borshIoError => .borshIoError
  | .computationalBudgetExceeded => .computeBudgetExceeded
  | .custom code => .custom code
  | other => .runtime other.debug

/-- `assert_error(expected)` does not panic on an execution with this raw result. -/
def acceptsError (rawResult : Except InstructionError Unit) (expected : ProgramError) : Bool :=
  match rawResult with
  | .ok () => false
  | .error e => ofInstructionError e = expected

end ProgramError

/-- The debug text of an error is never empty. -/
theorem InstructionError.debug_ne_empty (e : InstructionError) : e.debug ≠ "" := by
  cases e with
  | custom code =>
      intro h
      have hlist := congrArg String.toList h
      simp [InstructionError.debug] at hlist
  | _ => simp [InstructionError.debug]

end Svm
end Quasar
