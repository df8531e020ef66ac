import Quasar.Svm.Error

/-!
# Status — the status word of a result

`ProgramError` is the error type of the `solana-program-error` crate, which the FFI layer uses to
number errors.  Its conversion from the runtime's errors belongs to that crate and is a parameter;
`ByName` says what the crate documents about it.
-/

namespace Quasar
namespace Ffi

open Svm (InstructionError)

/-- `solana_program_error::ProgramError`. -/
inductive ProgramError
  | custom (code : UInt32)
  | invalidArgument
  | invalidInstructionData
  | invalidAccountData
  | accountDataTooSmall
  | insufficientFunds
  | incorrectProgramId
  | missingRequiredSignature
  | accountAlreadyInitialized
  | uninitializedAccount
  | notEnoughAccountKeys
  | accountBorrowFailed
  | maxSeedLengthExceeded
  | invalidSeeds
  | borshIoError
  | accountNotRentExempt
  | unsupportedSysvar
  | illegalOwner
  | maxAccountsDataAllocationsExceeded
  | invalidRealloc
  | maxInstructionTraceLengthExceeded
  | builtinProgramsMustConsumeComputeUnits
  | invalidAccountOwner
  | arithmeticOverflow
  | immutable
  | incorrectAuthority
  deriving DecidableEq, Repr

/-- `ProgramError::try_from(InstructionError)`, absent where the conversion fails. -/
abbrev Conversion := InstructionError → Option ProgramError

namespace ProgramError

/-- The runtime error of the same name. -/
def toInstructionError : ProgramError → InstructionError
  | .custom code => .custom code
  | .invalidArgument => .invalidArgument
  | .invalidInstructionData => .invalidInstructionData
  | .invalidAccountData => .invalidAccountData
  | .accountDataTooSmall => .accountDataTooSmall
  | .insufficientFunds => .insufficientFunds
  | .incorrectProgramId => .incorrectProgramId
  | .missingRequiredSignature => .missingRequiredSignature
  | .accountAlreadyInitialized => .accountAlreadyInitialized
  | .uninitializedAccount => .uninitializedAccount
  | .notEnoughAccountKeys => .notEnoughAccountKeys
  | .accountBorrowFailed => .accountBorrowFailed
  | .maxSeedLengthExceeded => .maxSeedLengthExceeded
  | .invalidSeeds => .invalidSeeds
  | .borshIoError => .borshIoError
  | .accountNotRentExempt => .accountNotRentExempt
  | .unsupportedSysvar => .unsupportedSysvar
  | .illegalOwner => .illegalOwner
  | .maxAccountsDataAllocationsExceeded => .maxAccountsDataAllocationsExceeded
  | .invalidRealloc => .invalidRealloc
  | .maxInstructionTraceLengthExceeded => .maxInstructionTraceLengthExceeded
  | .builtinProgramsMustConsumeComputeUnits => .builtinProgramsMustConsumeComputeUnits
  | .invalidAccountOwner => .invalidAccountOwner
  | .arithmeticOverflow => .arithmeticOverflow
  | .immutable => .immutable
  | .incorrectAuthority => .incorrectAuthority

/-- The conversion of the crate: each error to the one of its name, a missing account to
`NotEnoughAccountKeys`, and a failure for the rest. -/
def tryFrom : Conversion
  | .custom code => some (.custom code)
  | .invalidArgument => some .invalidArgument
  | .invalidInstructionData => some .invalidInstructionData
  | .invalidAccountData => some .invalidAccountData
  | .accountDataTooSmall => some .accountDataTooSmall
  | .insufficientFunds => some .insufficientFunds
  | .incorrectProgramId => some .incorrectProgramId
  | .missingRequiredSignature => some .missingRequiredSignature
  | .accountAlreadyInitialized => some .accountAlreadyInitialized
  | .uninitializedAccount => some .uninitializedAccount
  -- `ProgramError` has no name for a missing account.
  | .missingAccount => some .notEnoughAccountKeys
  | .notEnoughAccountKeys => some .notEnoughAccountKeys
  | .accountBorrowFailed => some .accountBorrowFailed
  | .maxSeedLengthExceeded => some .maxSeedLengthExceeded
  | .invalidSeeds => some .invalidSeeds
  | .borshIoError => some .borshIoError
  | .accountNotRentExempt => some .accountNotRentExempt
  | .unsupportedSysvar => some .unsupportedSysvar
  | .illegalOwner => some .illegalOwner
  | .maxAccountsDataAllocationsExceeded => some .maxAccountsDataAllocationsExceeded
  | .invalidRealloc => some .invalidRealloc
  | .maxInstructionTraceLengthExceeded => some .maxInstructionTraceLengthExceeded
  | .builtinProgramsMustConsumeComputeUnits => some .builtinProgramsMustConsumeComputeUnits
  | .invalidAccountOwner => some .invalidAccountOwner
  | .arithmeticOverflow => some .arithmeticOverflow
  | .immutable => some .immutable
  | .incorrectAuthority => some .incorrectAuthority
  | _ => none

end ProgramError

/-- A conversion succeeds exactly on the errors that both enumerations name, and on a missing account,
which it takes for too few account keys. -/
def ByName (tryFrom : Conversion) : Prop :=
  ∀ e p, tryFrom e = some p ↔
    p.toInstructionError = e ∨ (e = .missingAccount ∧ p = .notEnoughAccountKeys)

/-- A conversion keeps custom codes; this much of `ByName` the success flag depends on. -/
def KeepsCustom (tryFrom : Conversion) : Prop :=
  ∀ code, tryFrom (.custom code) = some (.custom code)

theorem ProgramError.tryFrom_byName : ByName ProgramError.tryFrom := by
  intro e p
  constructor
  · -- Each error that converts does so to the one of its name, a missing account apart.
    intro h
    cases e with
    | missingAccount =>
        cases h
        exact .inr ⟨rfl, rfl⟩
    | _ => cases h <;> exact .inl rfl
  · rintro (rfl | ⟨rfl, rfl⟩)
    · cases p <;> rfl
    · rfl

theorem ByName.eq_tryFrom {tryFrom : Conversion} (h : ByName tryFrom) :
    tryFrom = ProgramError.tryFrom := by
  funext e
  refine Option.ext ?_
  intro p
  exact (h e p).trans (ProgramError.tryFrom_byName e p).symm

theorem ByName.keepsCustom {tryFrom : Conversion} (h : ByName tryFrom) : KeepsCustom tryFrom := by
  intro code
  exact (h _ _).2 (.inl rfl)

/-! ## Status codes -/

def programErrorToI32 : ProgramError → Int32
  -- `n as i32`, which turns the codes from 2 ^ 31 on negative.
  | .custom n => n.toInt32
  | .invalidArgument => -1
  | .invalidInstructionData => -2
  | .invalidAccountData => -3
  | .accountDataTooSmall => -4
  | .insufficientFunds => -5
  | .incorrectProgramId => -6
  | .missingRequiredSignature => -7
  | .accountAlreadyInitialized => -8
  | .uninitializedAccount => -9
  | .notEnoughAccountKeys => -10
  | .accountBorrowFailed => -11
  | .maxSeedLengthExceeded => -12
  | .invalidSeeds => -13
  | .borshIoError => -14
  | .accountNotRentExempt => -15
  | .unsupportedSysvar => -16
  | .illegalOwner => -17
  | .maxAccountsDataAllocationsExceeded => -18
  | .invalidRealloc => -19
  | .maxInstructionTraceLengthExceeded => -20
  | .builtinProgramsMustConsumeComputeUnits => -21
  | .invalidAccountOwner => -22
  | .arithmeticOverflow => -23
  | .immutable => -24
  | .incorrectAuthority => -25

/-- The code of an error the conversion rejects is that of `InvalidArgument`. -/
def errorCode (tryFrom : Conversion) (err : InstructionError) : Int32 :=
  match tryFrom err with
  | some programError => programErrorToI32 programError
  | none => -1

/-- The status word and the error message that `serialize_result` derives from a raw result. -/
def statusAndMessage (tryFrom : Conversion) (rawResult : Except InstructionError Unit) :
    Int32 × Option String :=
  match rawResult with
  | .ok () => (0, none)
  | .error err => (errorCode tryFrom err, some err.debug)

/-! ## When a code is zero -/

theorem programErrorToI32_eq_zero_iff (p : ProgramError) :
    programErrorToI32 p = 0 ↔ p = .custom 0 := by
  cases p with
  | custom n =>
      constructor
      · intro h
        -- The cast `n as i32` keeps the bits, so only the code 0 becomes 0.
        have hn : n = (0 : Int32).toUInt32 := congrArg Int32.toUInt32 h
        exact congrArg ProgramError.custom hn
      · intro h
        cases h
        rfl
  | _ => simp [programErrorToI32]

theorem errorCode_eq_zero_iff (tryFrom : Conversion) (err : InstructionError) :
    errorCode tryFrom err = 0 ↔ tryFrom err = some (.custom 0) := by
  unfold errorCode
  cases htry : tryFrom err with
  | none => simp
  | some p => simpa using programErrorToI32_eq_zero_iff p

end Ffi
end Quasar
