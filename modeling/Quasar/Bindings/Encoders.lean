import Quasar.Bindings.Node
import Quasar.Bindings.Python
import Quasar.Lib.Buffer

/-!
# Encoders — instructions and accounts as the bindings write them

Python joins byte strings.  Both TypeScript packages allocate a buffer of the size they have
computed and fill it at an offset.  The web3.js package takes instructions of either package.
-/

namespace Quasar
namespace Bindings

open Lib
open Lib.LittleEndian
open Svm (Bytes)

/-! ## Python -/

namespace Python

inductive EncodeError
  | structError
  deriving DecidableEq

structure Account where
  pubkey : Bytes
  owner : Bytes
  lamports : Int
  data : Bytes
  executable : Bool
  deriving DecidableEq

/-- `struct.pack` of an unsigned integer of `width` bytes; a value out of range raises. -/
def pack (width : Nat) (value : Int) : Except EncodeError Bytes :=
  if 0 ≤ value ∧ value < 256 ^ width then
    .ok (toBytes width value.toNat)
  else
    .error .structError

/-- `struct.pack("<I", value)` -/
def packU32 (value : Int) : Except EncodeError Bytes := pack 4 value

/-- `struct.pack("<Q", value)` -/
def packU64 (value : Int) : Except EncodeError Bytes := pack 8 value

/-- `bytes([1 if b else 0])` -/
def packBool (b : Bool) : Bytes := [if b then 1 else 0]

def serializeInstruction (ix : Instruction) : Except EncodeError Bytes := do
  let dataLen ← packU32 ix.data.length
  let count ← packU32 ix.accounts.length
  let parts := [ix.programId, dataLen, ix.data, count] ++
    ix.accounts.flatMap fun m => [m.pubkey, packBool m.isSigner, packBool m.isWritable]
  pure parts.flatten

def serializeInstructions (ixs : List Instruction) : Except EncodeError Bytes := do
  let count ← packU32 ixs.length
  let parts ← ixs.mapM serializeInstruction
  pure (count :: parts).flatten

/-- The parts that one account adds to the list. -/
def accountParts (a : Account) : Except EncodeError (List Bytes) := do
  let lamports ← packU64 a.lamports
  let dataLen ← packU32 a.data.length
  pure [a.pubkey, a.owner, lamports, dataLen, a.data, packBool a.executable]

def serializeAccounts (accounts : List Account) : Except EncodeError Bytes := do
  let count ← packU32 accounts.length
  let parts ← accounts.mapM accountParts
  pure (count :: parts.flatten).flatten

end Python

/-! ## TypeScript -/

namespace Node

inductive EncodeError
  | rangeError
  | invalidAddress
  deriving DecidableEq

abbrev Writer := BufferWriter EncodeError

/-- `buf.set(bytes, o)`, then `o += n`. -/
def set (bytes : Bytes) (n : Nat) : Writer Unit := do
  BufferWriter.set .rangeError bytes
  BufferWriter.advance n

/-- `buf.writeUInt32LE(value, o)`, then `o += 4`. -/
def writeUInt32LE (value : Nat) : Writer Unit :=
  if value < 2 ^ 32 then set (toBytes 4 value) 4 else throw .rangeError

/-- `buf.writeBigUInt64LE(value, o)`, then `o += 8`. -/
def writeBigUInt64LE (value : Int) : Writer Unit :=
  if 0 ≤ value ∧ value < 2 ^ 64 then set (toBytes 8 value.toNat) 8 else throw .rangeError

/-- `buf[o++] = b ? 1 : 0`, which is ignored behind the end. -/
def setFlag (b : Bool) : Writer Unit := do
  BufferWriter.copy [if b then 1 else 0]
  BufferWriter.advance 1

/-- `p.copy(buf, o)`, then `o += p.length`. -/
def copyPart (p : Bytes) : Writer Unit := do
  BufferWriter.copy p
  BufferWriter.advance p.length

/-- The roles of `@solana/instructions`. -/
inductive AccountRole
  | readonly
  | writable
  | readonlySigner
  | writableSigner
  deriving DecidableEq

def isSignerRole : AccountRole → Bool
  | .readonly => false
  | .writable => false
  | .readonlySigner => true
  | .writableSigner => true

def isWritableRole : AccountRole → Bool
  | .readonly => false
  | .writable => true
  | .readonlySigner => false
  | .writableSigner => true

/-- The base-58 decoders of the two packages; absent where they throw. -/
structure AddressCodec where
  /-- `new Address(text).toBytes()` of `@solana/web3.js` -/
  addressBytes : String → Option Bytes
  /-- `getAddressEncoder().encode(text)` of `@solana/addresses` -/
  encode : String → Option Bytes

/-- `buf.set` of the 32 bytes of an address in text form. -/
def setAddress (toBytes : String → Option Bytes) (text : String) : Writer Unit :=
  match toBytes text with
  | some bytes => set bytes 32
  | none => throw .invalidAddress

/-- Concatenate parts behind a count; `length` is the number of parts. -/
def joinParts (length : Nat) (parts : List Bytes) : Except EncodeError Bytes :=
  let total := 4 + parts.foldl (fun s p => s + p.length) 0
  BufferWriter.fill total do
    writeUInt32LE length
    parts.forM copyPart

end Node

/-! ### Kit -/

namespace Kit

open Node

structure AccountMeta where
  address : String
  role : AccountRole
  deriving DecidableEq

/-- `accounts` and `data` may be left out. -/
structure Instruction where
  programAddress : String
  accounts : Option (List AccountMeta)
  data : Option Bytes
  deriving DecidableEq

structure Account where
  address : String
  programAddress : String
  lamports : Int
  data : Bytes
  executable : Bool
  deriving DecidableEq

/-- Shared by `kit/wire.ts` and the kit branch of `web3.js/wire.ts`, which differ in how an address
becomes bytes. -/
def serializeWith (toBytes : String → Option Bytes) (ix : Instruction) :
    Except EncodeError Bytes :=
  let accounts := ix.accounts.getD []
  let data := ix.data.getD []
  let metaSize := accounts.length * 34
  BufferWriter.fill (32 + 4 + data.length + 4 + metaSize) do
    setAddress toBytes ix.programAddress
    writeUInt32LE data.length
    set data data.length
    writeUInt32LE accounts.length
    accounts.forM fun m => do
      setAddress toBytes m.address
      setFlag (isSignerRole m.role)
      setFlag (isWritableRole m.role)

variable (codec : AddressCodec)

def serializeInstruction (ix : Instruction) : Except EncodeError Bytes :=
  serializeWith codec.encode ix

def serializeInstructions (ixs : List Instruction) : Except EncodeError Bytes := do
  let parts ← ixs.mapM (serializeInstruction codec)
  joinParts ixs.length parts

def serializeAccounts (accounts : List Account) : Except EncodeError Bytes :=
  let total := accounts.foldl (fun total a => total + (32 + 32 + 8 + 4 + a.data.length + 1)) 4
  BufferWriter.fill total do
    writeUInt32LE accounts.length
    accounts.forM fun a => do
      setAddress codec.encode a.address
      setAddress codec.encode a.programAddress
      writeBigUInt64LE a.lamports
      writeUInt32LE a.data.length
      set a.data a.data.length
      setFlag a.executable

end Kit

/-! ### web3.js -/

namespace Web3

open Node

/-- An `Address` object, by what its `toBytes()` returns. -/
structure Address where
  bytes : Bytes
  deriving DecidableEq

structure AccountMeta where
  pubkey : Address
  isSigner : Bool
  isWritable : Bool
  deriving DecidableEq

structure TransactionInstruction where
  programId : Address
  keys : List AccountMeta
  data : Bytes
  deriving DecidableEq

/-- What `isWeb3Instruction` and `isKitInstruction` tell apart at run time. -/
inductive SupportedInstruction
  | web3 (ix : TransactionInstruction)
  | kit (ix : Kit.Instruction)
  deriving DecidableEq

structure AccountInfo where
  owner : Address
  lamports : Int
  data : Bytes
  executable : Bool
  deriving DecidableEq

structure KeyedAccountInfo where
  accountId : Address
  accountInfo : AccountInfo
  deriving DecidableEq

def serializeWeb3Instruction (ix : TransactionInstruction) : Except EncodeError Bytes :=
  let metaSize := ix.keys.length * 34
  BufferWriter.fill (32 + 4 + ix.data.length + 4 + metaSize) do
    set ix.programId.bytes 32
    writeUInt32LE ix.data.length
    set ix.data ix.data.length
    writeUInt32LE ix.keys.length
    ix.keys.forM fun m => do
      set m.pubkey.bytes 32
      setFlag m.isSigner
      setFlag m.isWritable

variable (codec : AddressCodec)

def serializeKitInstruction (ix : Kit.Instruction) : Except EncodeError Bytes :=
  Kit.serializeWith codec.addressBytes ix

def serializeInstruction : SupportedInstruction → Except EncodeError Bytes
  | .web3 ix => serializeWeb3Instruction ix
  | .kit ix => serializeKitInstruction codec ix

def serializeInstructions (ixs : List SupportedInstruction) : Except EncodeError Bytes := do
  let parts ← ixs.mapM (serializeInstruction codec)
  joinParts ixs.length parts

def serializeAccounts (accounts : List KeyedAccountInfo) : Except EncodeError Bytes :=
  let total := accounts.foldl
    (fun total a => total + (32 + 32 + 8 + 4 + a.accountInfo.data.length + 1)) 4
  BufferWriter.fill total do
    writeUInt32LE accounts.length
    accounts.forM fun a => do
      set a.accountId.bytes 32
      set a.accountInfo.owner.bytes 32
      -- `BigInt` of the lamports, which are a number or a bigint.
      writeBigUInt64LE a.accountInfo.lamports
      writeUInt32LE a.accountInfo.data.length
      set a.accountInfo.data a.accountInfo.data.length
      setFlag a.accountInfo.executable

end Web3

end Bindings
end Quasar
