import Quasar.Bindings.ProgramError
import Quasar.Lib.Cursor
import Quasar.Lib.LittleEndian
import Quasar.Lib.Utf8
import Quasar.Svm.Crates

/-!
# Python — the Python decoder of results

`struct.unpack_from` and an index past the end raise; a slice stops at the end; `decode("utf-8")`
raises on invalid bytes.
-/

namespace Quasar
namespace Bindings
namespace Python

open Lib
open Lib.LittleEndian
open Svm (Bytes F64)

/-! ## Status words -/

/-- The table of `program_error_from_status`, keyed by status code. -/
def errorMap (status : Int) : Option ProgramError :=
  match status with
  | -1 => some .invalidArgument
  | -2 => some .invalidInstructionData
  | -3 => some .invalidAccountData
  | -4 => some .accountDataTooSmall
  | -5 => some .insufficientFunds
  | -6 => some .incorrectProgramId
  | -7 => some .missingRequiredSignature
  | -8 => some .accountAlreadyInitialized
  | -9 => some .uninitializedAccount
  | -10 => some .missingAccount
  | -11 => some .invalidSeeds
  | -12 => some .arithmeticOverflow
  | -13 => some .accountNotRentExempt
  | -14 => some .invalidAccountOwner
  | -15 => some .incorrectAuthority
  | -16 => some .immutable
  | -17 => some .borshIoError
  | -18 => some .computeBudgetExceeded
  | _ => none

/-- `error_message or f"Unknown error (code {status})"`: an empty message counts as missing. -/
def messageOr (errorMessage : Option String) (status : Int) : String :=
  match errorMessage with
  | some message => if message = "" then s!"Unknown error (code {status})" else message
  | none => s!"Unknown error (code {status})"

/-- Map a wire status code to a program error. -/
def programErrorFromStatus (status : Int) (errorMessage : Option String) : ProgramError :=
  decodeStatus errorMap (messageOr errorMessage status) status

/-- The status of the result object. -/
def executionStatus (status : Int) (errorMessage : Option String) : ExecutionStatus :=
  if status = 0 then .ok else .error (programErrorFromStatus status errorMessage)

/-! ## Buffer accesses -/

inductive DecodeError
  | structError
  | indexError
  | unicodeDecodeError
  deriving DecidableEq

abbrev Reader := Decoder DecodeError

/-- `struct.unpack_from("<i", data, o)` -/
def unpackI32 : Reader Int := do
  let bytes ← Decoder.takeExact .structError 4
  pure (getI32 bytes).toInt

/-- `struct.unpack_from("<I", data, o)` -/
def unpackU32 : Reader Nat := do
  let bytes ← Decoder.takeExact .structError 4
  pure (getU32 bytes).toNat

/-- `struct.unpack_from("<Q", data, o)` -/
def unpackU64 : Reader UInt64 := do
  let bytes ← Decoder.takeExact .structError 8
  pure (getU64 bytes)

/-- `struct.unpack_from("<d", data, o)` -/
def unpackF64 : Reader F64 := do
  let bytes ← Decoder.takeExact .structError 8
  pure (getU64 bytes)

/-- `data[o : o + n]`, then `o += n`. -/
def slice (n : Nat) : Reader Bytes :=
  Decoder.slice n

/-- `data[o]`, then `o += 1`. -/
def byte : Reader UInt8 := do
  let bytes ← Decoder.takeExact .indexError 1
  pure (bytes.headD 0)

/-- `data[o] != 0`, then `o += 1`. -/
def flag : Reader Bool := do
  let b ← byte
  pure (b != 0)

/-- `.decode("utf-8")` -/
def decodeUtf8 (bytes : Bytes) : Reader String := fun _ o =>
  match ofUtf8? bytes with
  | some s => .ok (s, o)
  | none => .error .unicodeDecodeError

def readBytes : Reader Bytes := do
  let len ← unpackU32
  slice len

def readString : Reader String := do
  let bytes ← readBytes
  decodeUtf8 bytes

def readList {α : Type} (one : Reader α) : Reader (List α) := do
  let count ← unpackU32
  Decoder.many one count

def readOptional {α : Type} (one : Reader α) : Reader (Option α) := do
  let present ← flag
  if present then some <$> one else pure none

/-! ## Results -/

structure ResultAccount where
  pubkey : Bytes
  owner : Bytes
  lamports : UInt64
  data : Bytes
  executable : Bool
  deriving DecidableEq

structure TokenBalance where
  accountIndex : Nat
  mint : String
  owner : Option String
  decimals : UInt8
  amount : String
  uiAmount : Option F64
  deriving DecidableEq

structure AccountMeta where
  pubkey : Bytes
  isSigner : Bool
  isWritable : Bool
  deriving DecidableEq

structure Instruction where
  programId : Bytes
  data : Bytes
  accounts : List AccountMeta
  deriving DecidableEq

structure ExecutedInstruction where
  stackDepth : UInt8
  instruction : Instruction
  computeUnitsConsumed : UInt64
  result : UInt64
  deriving DecidableEq

/-- The wire-level result; `ExecutionResult` of `result.py` adds the status to it. -/
structure ExecutionResult where
  status : Int
  computeUnits : UInt64
  executionTimeUs : UInt64
  returnData : Bytes
  accounts : List ResultAccount
  logs : List String
  errorMessage : Option String
  preBalances : List UInt64
  postBalances : List UInt64
  preTokenBalances : List TokenBalance
  postTokenBalances : List TokenBalance
  executionTrace : List ExecutedInstruction
  deriving DecidableEq

def ExecutionResult.executionStatus (r : ExecutionResult) : ExecutionStatus :=
  Python.executionStatus r.status r.errorMessage

/-! ## The decoder -/

def readAccount : Reader ResultAccount := do
  let pubkey ← slice 32
  let owner ← slice 32
  let lamports ← unpackU64
  let data ← readBytes
  let executable ← flag
  pure { pubkey, owner, lamports, data, executable }

/-- `text if em_len > 0 else None` -/
def readErrorMessage : Reader (Option String) := do
  let len ← unpackU32
  let bytes ← slice len
  if len > 0 then some <$> decodeUtf8 bytes else pure none

def readTokenBalance : Reader TokenBalance := do
  let accountIndex ← unpackU32
  let mint ← readString
  let owner ← readOptional readString
  let decimals ← byte
  let amount ← readString
  let uiAmount ← readOptional unpackF64
  pure { accountIndex, mint, owner, decimals, amount, uiAmount }

def readAccountMeta : Reader AccountMeta := do
  let pubkey ← slice 32
  let isSigner ← flag
  let isWritable ← flag
  pure { pubkey, isSigner, isWritable }

def readExecutedInstruction : Reader ExecutedInstruction := do
  let stackDepth ← byte
  let programId ← slice 32
  let accounts ← readList readAccountMeta
  let data ← readBytes
  let computeUnitsConsumed ← unpackU64
  let result ← unpackU64
  pure { stackDepth, instruction := { programId, data, accounts }, computeUnitsConsumed, result }

def readResult : Reader ExecutionResult := do
  let status ← unpackI32
  let computeUnits ← unpackU64
  let executionTimeUs ← unpackU64
  let returnData ← readBytes
  let accounts ← readList readAccount
  let logs ← readList readString
  let errorMessage ← readErrorMessage
  let preBalances ← readList unpackU64
  let postBalances ← readList unpackU64
  let preTokenBalances ← readList readTokenBalance
  let postTokenBalances ← readList readTokenBalance
  let executionTrace ← readList readExecutedInstruction
  pure
    { status, computeUnits, executionTimeUs, returnData, accounts, logs, errorMessage, preBalances,
      postBalances, preTokenBalances, postTokenBalances, executionTrace }

/-- The decoded result with the final offset. -/
def deserializeResult (data : Bytes) : Except DecodeError (ExecutionResult × Nat) :=
  Decoder.run readResult data

end Python
end Bindings
end Quasar
