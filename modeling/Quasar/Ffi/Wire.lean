import Quasar.Ffi.Status
import Quasar.Lib.Cursor
import Quasar.Lib.LittleEndian
import Quasar.Lib.Utf8
import Quasar.Svm.Vm

/-!
# Wire — the binary format between the engine and its bindings

All integers are little-endian and all lengths are 32-bit.  The writer returns what it appends to
its buffer; the reader is a decoder over the input buffer.
-/

namespace Quasar
namespace Ffi

open Lib
open Lib.LittleEndian
open Svm (Bytes F64 Pubkey SolanaAccount Account AccountMeta Instruction TokenBalance
  ExecutedInstruction ExecutionResult)

/-! ## Writer -/

namespace Writer

def writeI32 (v : Int32) : Bytes := putI32 v

def writeU8 (v : UInt8) : Bytes := [v]

def writeU32 (v : UInt32) : Bytes := putU32 v

def writeU64 (v : UInt64) : Bytes := putU64 v

def writeF64 (v : F64) : Bytes := putU64 v

def writeBool (v : Bool) : Bytes := [if v then 1 else 0]

/-- A length as it is written: `len() as u32`. -/
def writeLen (n : Nat) : Bytes := writeU32 (UInt32.ofNat n)

def writeLengthPrefixed (data : Bytes) : Bytes := writeLen data.length ++ data

def writePubkey (pubkey : Pubkey) : Bytes := pubkey.bytes

def writeString (s : String) : Bytes := writeLengthPrefixed (utf8 s)

/-- A count and then every element. -/
def writeList {α : Type} (write : α → Bytes) (xs : List α) : Bytes :=
  writeLen xs.length ++ xs.flatMap write

/-- A presence flag and then the value, if there is one. -/
def writeOption {α : Type} (write : α → Bytes) : Option α → Bytes
  | some a => writeBool true ++ write a
  | none => writeBool false

end Writer

/-! ## Serialization -/

section Serialize

open Writer

def writeAccount (account : Account) : Bytes :=
  writePubkey account.address ++ (writePubkey account.owner ++ (writeU64 account.lamports ++
    (writeLengthPrefixed account.data ++ writeBool account.executable)))

def writeTokenBalance (tb : TokenBalance) : Bytes :=
  writeLen tb.accountIndex ++ (writeString tb.mint ++ (writeOption writeString tb.owner ++
    (writeU8 tb.uiTokenAmount.decimals ++ (writeString tb.uiTokenAmount.amount ++
      writeOption writeF64 tb.uiTokenAmount.uiAmount))))

def writeAccountMeta (acc : AccountMeta) : Bytes :=
  writePubkey acc.pubkey ++ (writeBool acc.isSigner ++ writeBool acc.isWritable)

def writeExecutedInstruction (instr : ExecutedInstruction) : Bytes :=
  writeU8 instr.stackDepth ++ (writePubkey instr.instruction.programId ++
    (writeList writeAccountMeta instr.instruction.accounts ++
      (writeLengthPrefixed instr.instruction.data ++
        (writeU64 instr.computeUnitsConsumed ++ writeU64 instr.result))))

/-- The error message, or a zero length without one. -/
def writeErrorMessage : Option String → Bytes
  | some msg => writeString msg
  | none => writeU32 0

def serializeResult (tryFrom : Conversion) (result : ExecutionResult) : Bytes :=
  let status := statusAndMessage tryFrom result.rawResult
  writeI32 status.1 ++ (writeU64 result.computeUnitsConsumed ++
    (writeU64 result.executionTimeUs ++ (writeLengthPrefixed result.returnData ++
      (writeList writeAccount result.accounts ++ (writeList writeString result.logs ++
        (writeErrorMessage status.2 ++ (writeList writeU64 result.preBalances ++
          (writeList writeU64 result.postBalances ++
            (writeList writeTokenBalance result.preTokenBalances ++
              (writeList writeTokenBalance result.postTokenBalances ++
                writeList writeExecutedInstruction result.executionTrace.instructions))))))))))

end Serialize

/-! ## Reader -/

/-- Decoders that fail with one of the reader's messages. -/
abbrev Reader := Decoder String

namespace Reader

def readBytes (n : Nat) : Reader Bytes :=
  Decoder.takeExact "unexpected end of input" n

def readU8 : Reader UInt8 := do
  let bytes ← readBytes 1
  pure (bytes.headD 0)

def readBool : Reader Bool := do
  let byte ← readU8
  pure (byte != 0)

def readU32 : Reader UInt32 := do
  let bytes ← readBytes 4
  pure (getU32 bytes)

def readU64 : Reader UInt64 := do
  let bytes ← readBytes 8
  pure (getU64 bytes)

def readPubkey : Reader Pubkey := do
  let bytes ← readBytes 32
  pure (if h : bytes.length = 32 then ⟨bytes, h⟩ else Pubkey.default)

end Reader

/-! ## Deserialization -/

section Deserialize

open Reader

def readAccountMeta : Reader AccountMeta := do
  let pubkey ← readPubkey
  let isSigner ← readBool
  let isWritable ← readBool
  pure { pubkey := pubkey, isSigner := isSigner, isWritable := isWritable }

def readOneInstruction : Reader Instruction := do
  let programId ← readPubkey
  let dataLen ← readU32
  let data ← readBytes dataLen.toNat
  let numMetas ← readU32
  let accounts ← Decoder.many readAccountMeta numMetas.toNat
  pure { programId := programId, accounts := accounts, data := data }

def readOneAccount : Reader (Pubkey × SolanaAccount) := do
  let pubkey ← readPubkey
  let owner ← readPubkey
  let lamports ← readU64
  let dataLen ← readU32
  let data ← readBytes dataLen.toNat
  let executable ← readBool
  pure (pubkey,
    { lamports := lamports
      data := data
      owner := owner
      executable := executable
      rentEpoch := 0 })

/-- A count and then every element. -/
def readList {α : Type} (one : Reader α) : Reader (List α) := do
  let count ← readU32
  Decoder.many one count.toNat

/-- Run a reader on a whole buffer; bytes that it leaves unread are an error. -/
def readAll {α : Type} (one : Reader α) (trailing : String) (data : Bytes) : Except String α :=
  match Decoder.run one data with
  | .error e => .error e
  | .ok (a, pos) => if data.length - pos > 0 then .error trailing else .ok a

def deserializeInstructions (data : Bytes) : Except String (List Instruction) :=
  readAll (readList readOneInstruction) "trailing data after instructions" data

def deserializeAccounts (data : Bytes) : Except String (List (Pubkey × SolanaAccount)) :=
  readAll (readList readOneAccount) "trailing data after accounts" data

end Deserialize

end Ffi
end Quasar
