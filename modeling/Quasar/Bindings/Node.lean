import Quasar.Bindings.ProgramError
import Quasar.Lib.Cursor
import Quasar.Lib.LittleEndian
import Quasar.Svm.Crates

/-!
# Node — the TypeScript decoder of results

The numeric readers of a Node `Buffer` throw outside the buffer.  Its other accesses do not:
`subarray` stops at the end, and an index past the end is `undefined`.
-/

namespace Quasar
namespace Bindings
namespace Node

open Lib
open Lib.LittleEndian
open Svm (Bytes F64)

/-! ## Status words -/

/-- The cases of the `switch` over non-positive statuses, absent for its `default`. -/
def errorCase (status : Int) : Option ProgramError :=
  match status with
  | -1 => some .invalidArgument
  | -2 => some .invalidInstructionData
  | -3 => some .invalidAccountData
  | -4 => some .accountDataTooSmall
  | -5 => some .insufficientFunds
  | -6 => some .incorrectProgramId
  | -7 => some .missingRequiredSignature
  | -8 => some .accountAlreadyInitialized
  | -9 => some .uninitializedAccount
  | -10 => some .missingAccount
  -- There is no case for -11 and -12, nor for -16 to -20.
  | -13 => some .invalidSeeds
  | -14 => some .borshIoError
  | -15 => some .accountNotRentExempt
  | -21 => some .computeBudgetExceeded
  | -22 => some .invalidAccountOwner
  | -23 => some .arithmeticOverflow
  | -24 => some .immutable
  | -25 => some .incorrectAuthority
  | _ => none

/-- Map a wire status code and error message into a program error. -/
def programErrorFromStatus (status : Int) (errorMessage : Option String) : ProgramError :=
  decodeStatus errorCase (errorMessage.getD "unknown error") status

def executionStatus (rawStatus : Int) (errorMessage : Option String) : ExecutionStatus :=
  if rawStatus = 0 then .ok else .error (programErrorFromStatus rawStatus errorMessage)

/-- Whether two errors carry the same `type` tag. -/
def sameType : ProgramError → ProgramError → Bool
  | .custom _, .custom _ => true
  | .runtime _, .runtime _ => true
  | .custom _, _ => false
  | .runtime _, _ => false
  | a, b => a = b

/-- `assertError` does not throw: the tags agree and so do the codes, where both have one. -/
def acceptsError (status : ExecutionStatus) (expected : ProgramError) : Bool :=
  match status with
  | .ok => false
  | .error actual =>
      sameType actual expected &&
        -- The text of a runtime error is not compared.
        match expected, actual with
        | .custom code, .custom code' => code' = code
        | _, _ => true

/-! ## Buffer accesses -/

inductive BufferError
  | outOfRange
  deriving DecidableEq

abbrev Reader := Decoder BufferError

def readInt32LE : Reader Int := do
  let bytes ← Decoder.takeExact .outOfRange 4
  pure (getI32 bytes).toInt

def readUInt32LE : Reader Nat := do
  let bytes ← Decoder.takeExact .outOfRange 4
  pure (getU32 bytes).toNat

def readBigUInt64LE : Reader UInt64 := do
  let bytes ← Decoder.takeExact .outOfRange 8
  pure (getU64 bytes)

def readDoubleLE : Reader F64 := do
  let bytes ← Decoder.takeExact .outOfRange 8
  pure (getU64 bytes)

/-- `data.subarray(o, o + n)`, then `o += n`. -/
def subarray (n : Nat) : Reader Bytes :=
  Decoder.slice n

/-- `data[o++]` -/
def byte : Reader (Option UInt8) :=
  Decoder.peek

/-- `data[o++] !== 0`, which holds for `undefined`. -/
def flag : Reader Bool := do
  let b ← byte
  pure (b != some 0)

def readBytes : Reader Bytes := do
  let len ← readUInt32LE
  subarray len

def readList {α : Type} (one : Reader α) : Reader (List α) := do
  let count ← readUInt32LE
  Decoder.many one count

/-- `flag ? value : null` -/
def readOptional {α : Type} (one : Reader α) : Reader (Option α) := do
  let present ← flag
  if present then some <$> one else pure none

/-! ## Results -/

structure InternalAccount where
  address : Bytes
  owner : Bytes
  lamports : UInt64
  data : Bytes
  executable : Bool
  deriving DecidableEq

structure UiTokenAmount where
  uiAmount : Option F64
  decimals : Option UInt8
  amount : String
  deriving DecidableEq

structure TokenBalance where
  accountIndex : Nat
  mint : String
  owner : Option String
  uiTokenAmount : UiTokenAmount
  deriving DecidableEq

structure AccountMeta where
  pubkey : Bytes
  isSigner : Bool
  isWritable : Bool
  deriving DecidableEq

structure Instruction where
  programId : Bytes
  accounts : List AccountMeta
  data : Bytes
  deriving DecidableEq

structure ExecutedInstruction where
  stackDepth : Option UInt8
  instruction : Instruction
  computeUnitsConsumed : UInt64
  result : UInt64
  deriving DecidableEq

structure ExecutionTrace where
  instructions : List ExecutedInstruction
  deriving DecidableEq

/-- The local variables of the decoder once the buffer has been read. -/
structure ResultFields where
  rawStatus : Int
  computeUnits : UInt64
  executionTimeUs : UInt64
  returnData : Bytes
  accounts : List InternalAccount
  logs : List String
  errorMessage : Option String
  preBalances : List UInt64
  postBalances : List UInt64
  preTokenBalances : List TokenBalance
  postTokenBalances : List TokenBalance
  executionTrace : ExecutionTrace
  deriving DecidableEq

/-- What the decoder returns. -/
structure InternalResult where
  status : ExecutionStatus
  computeUnits : UInt64
  executionTimeUs : UInt64
  returnData : Bytes
  accounts : List InternalAccount
  logs : List String
  preBalances : List UInt64
  postBalances : List UInt64
  preTokenBalances : List TokenBalance
  postTokenBalances : List TokenBalance
  executionTrace : ExecutionTrace
  deriving DecidableEq

def ResultFields.toResult (f : ResultFields) : InternalResult :=
  { status := executionStatus f.rawStatus f.errorMessage
    computeUnits := f.computeUnits
    executionTimeUs := f.executionTimeUs
    returnData := f.returnData
    accounts := f.accounts
    logs := f.logs
    preBalances := f.preBalances
    postBalances := f.postBalances
    preTokenBalances := f.preTokenBalances
    postTokenBalances := f.postTokenBalances
    executionTrace := f.executionTrace }

/-! ## The decoder -/

section Deserialize

-- `Buffer.toString("utf8")`: never fails, and puts replacement characters for invalid bytes.
variable (toUtf8 : Bytes → String)

def readString : Reader String :=
  toUtf8 <$> readBytes

def readAccount : Reader InternalAccount := do
  -- A key at the end of a short buffer comes out shorter than 32 bytes.
  let address ← subarray 32
  let owner ← subarray 32
  let lamports ← readBigUInt64LE
  let data ← readBytes
  let executable ← flag
  pure { address, owner, lamports, data, executable }

/-- `emLen > 0 ? text : null` -/
def readErrorMessage : Reader (Option String) := do
  let len ← readUInt32LE
  let bytes ← subarray len
  pure (if len > 0 then some (toUtf8 bytes) else none)

def readTokenBalance : Reader TokenBalance := do
  let accountIndex ← readUInt32LE
  let mint ← readString toUtf8
  let owner ← readOptional (readString toUtf8)
  let decimals ← byte
  let amount ← readString toUtf8
  let uiAmount ← readOptional readDoubleLE
  pure { accountIndex, mint, owner, uiTokenAmount := { uiAmount, decimals, amount } }

def readAccountMeta : Reader AccountMeta := do
  let pubkey ← subarray 32
  let isSigner ← flag
  let isWritable ← flag
  pure { pubkey, isSigner, isWritable }

def readExecutedInstruction : Reader ExecutedInstruction := do
  let stackDepth ← byte
  let programId ← subarray 32
  let accounts ← readList readAccountMeta
  let data ← readBytes
  let computeUnitsConsumed ← readBigUInt64LE
  let result ← readBigUInt64LE
  pure { stackDepth, instruction := { programId, accounts, data }, computeUnitsConsumed, result }

def readResult : Reader ResultFields := do
  let rawStatus ← readInt32LE
  let computeUnits ← readBigUInt64LE
  let executionTimeUs ← readBigUInt64LE
  let returnData ← readBytes
  let accounts ← readList readAccount
  let logs ← readList (readString toUtf8)
  let errorMessage ← readErrorMessage toUtf8
  let preBalances ← readList readBigUInt64LE
  let postBalances ← readList readBigUInt64LE
  let preTokenBalances ← readList (readTokenBalance toUtf8)
  let postTokenBalances ← readList (readTokenBalance toUtf8)
  let instructions ← readList readExecutedInstruction
  pure
    { rawStatus, computeUnits, executionTimeUs, returnData, accounts, logs, errorMessage,
      preBalances, postBalances, preTokenBalances, postTokenBalances,
      executionTrace := { instructions } }

/-- The decoded result with the final offset. -/
def deserializeResult (data : Bytes) : Except BufferError (InternalResult × Nat) :=
  (Decoder.run (readResult toUtf8) data).map fun r => (r.1.toResult, r.2)

end Deserialize

end Node
end Bindings
end Quasar
