import Quasar.Bindings.Encoders
import Quasar.Bindings.Host

/-!
# Client — the classes of the bindings

The two TypeScript packages share a base class; the Python class is written along the same lines.  A
method makes one call of the C interface, asks for the last error when that fails, and copies and
frees the result buffer when there is one.  The order that the library draws for an execution is
handed down with the call, so that each may have its own; the classes know nothing of it.
-/

namespace Quasar
namespace Bindings

open Lib
open Ffi
open Svm (Bytes Pubkey SetOrder)

/-- The 32 bytes that the C interface reads behind a program id. -/
def programIdAt (bytes : Option Bytes) : Option Pubkey :=
  bytes.bind fun bytes => if h : bytes.length = 32 then some ⟨bytes, h⟩ else none

/-! ## The native functions -/

namespace Native

variable {ε : Type}

def lastError : ExceptT ε (Script Request Answer) (Option String) :=
  Script.query Request.lastError

def svmNew : ExceptT ε (Script Request Answer) Pointer :=
  Script.query Request.svmNew

/-- A call on a VM, with its code and what it wrote to the out parameters. -/
def onVm (svm : Pointer) (call : VmCall) :
    ExceptT ε (Script Request Answer) (Int32 × Option (Nat × Nat)) :=
  Script.query (Request.onVm svm call)

def read (result : Pointer) (resultLen : Nat) : ExceptT ε (Script Request Answer) Bytes :=
  Script.query (Request.read result resultLen)

def resultFree (result : Pointer) (resultLen : Nat) : ExceptT ε (Script Request Answer) Unit :=
  Script.query (Request.resultFree result resultLen)

/-! What the classes do with a return code is the same in both languages, but for what they throw
and for how they fill in a missing text. -/

section Checked

variable (thrown : String → ε) (textOr : Option String → String)

def checkWith (code : Int32) : ExceptT ε (Script Request Answer) Unit :=
  if code ≠ 0 then do
    let err ← lastError
    let text := textOr err
    throw (thrown s!"QuasarSvm error ({code}): {text}")
  else
    pure ()

/-- A new VM, at a pointer that is not null. -/
def createWith : ExceptT ε (Script Request Answer) Nat := do
  let ptr ← svmNew
  match ptr with
  | none => do
      let err ← lastError
      let text := textOr err
      throw (thrown s!"Failed to create QuasarSvm: {text}")
  | some b => pure b

/-- Execute, copy the result buffer and free it. -/
def executeWith (svm : Pointer) (ixBuf acctBuf : Bytes) (order : SetOrder) :
    ExceptT ε (Script Request Answer) Bytes := do
  let out ← onVm svm (.processTransaction (some ixBuf) (some acctBuf) true order)
  let code := out.1
  if code ≠ 0 then do
    let err ← lastError
    let text := textOr err
    throw (thrown s!"Execution error ({code}): {text}")
  else do
    -- The out parameters stay null and 0 where nothing is written to them.
    let resultPtr := out.2.map Prod.fst
    let resultLen := (out.2.map Prod.snd).getD 0
    let resultBuf ← read resultPtr resultLen
    resultFree resultPtr resultLen
    pure resultBuf

end Checked

/-- A call on a VM that hands out nothing, with its code checked. -/
def callWith (check : Int32 → ExceptT ε (Script Request Answer) Unit) (svm : Pointer)
    (call : VmCall) : ExceptT ε (Script Request Answer) Unit := do
  let out ← onVm svm call
  check out.1

end Native

/-! ## The base class of the TypeScript packages -/

namespace Node

inductive Thrown
  | error (message : String)
  | encode (e : EncodeError)
  | decode (e : BufferError)

abbrev Code : Type → Type :=
  ExceptT Thrown (Script Request Answer)

/-- The pointer is kept after it was freed. -/
structure QuasarSvmBase where
  ptr : Pointer
  freed : Bool

/-- A field that is left out counts as false. -/
structure QuasarSvmConfig where
  token : Option Bool
  token2022 : Option Bool
  associatedToken : Option Bool

def quasarSvmConfigFull : QuasarSvmConfig :=
  { token := some true
    token2022 := some true
    associatedToken := some true }

/-- `ffi.quasar_last_error() ?? "unknown"` -/
def textOr (err : Option String) : String :=
  err.getD "unknown"

namespace QuasarSvmBase

def check (code : Int32) : Code Unit :=
  Native.checkWith .error textOr code

def new : Code QuasarSvmBase := do
  let b ← Native.createWith .error textOr
  pure { ptr := some b, freed := false }

def free (svm : QuasarSvmBase) : Script Request Answer QuasarSvmBase :=
  if svm.freed then
    pure svm
  else do
    let _ ← Script.request (.svmFree svm.ptr)
    pure { svm with freed := true }

/-- `Symbol.dispose`, and what the registry does for an object that was not freed. -/
def dispose (svm : QuasarSvmBase) : Script Request Answer QuasarSvmBase :=
  svm.free

/-- `dispose`, any number of times. -/
def disposeTimes (svm : QuasarSvmBase) : Nat → Script Request Answer QuasarSvmBase
  | 0 => pure svm
  | n + 1 => svm.dispose.bind fun svm => disposeTimes svm n

/-- The one call that a setter makes. -/
def configure (svm : QuasarSvmBase) (call : ConfigurationCall) : Code Unit :=
  Native.callWith check svm.ptr (.configure call)

def setClock (svm : QuasarSvmBase) (slot : UInt64) (epochStartTimestamp : Int64)
    (epoch leaderScheduleEpoch : UInt64) (unixTimestamp : Int64) : Code Unit :=
  svm.configure
    (.setter (.setClock slot epochStartTimestamp epoch leaderScheduleEpoch unixTimestamp))

def warpToSlot (svm : QuasarSvmBase) (slot : UInt64) : Code Unit :=
  svm.configure (.setter (.warpToSlot slot))

def setRent (svm : QuasarSvmBase) (lamportsPerByte : UInt64) : Code Unit :=
  svm.configure (.setter (.setRent lamportsPerByte))

def setEpochSchedule (svm : QuasarSvmBase) (slotsPerEpoch leaderScheduleSlotOffset : UInt64)
    (warmup : Bool) (firstNormalEpoch firstNormalSlot : UInt64) : Code Unit :=
  svm.configure
    (.setEpochSchedule slotsPerEpoch leaderScheduleSlotOffset warmup firstNormalEpoch
      firstNormalSlot)

def setComputeBudget (svm : QuasarSvmBase) (maxUnits : UInt64) : Code Unit :=
  svm.configure (.setComputeBudget maxUnits)

/-- The setters of the base class, by the call that each of them makes. -/
def set (svm : QuasarSvmBase) : ConfigurationCall → Code Unit
  | .setter (.setClock slot epochStartTimestamp epoch leaderScheduleEpoch unixTimestamp) =>
      svm.setClock slot epochStartTimestamp epoch leaderScheduleEpoch unixTimestamp
  | .setter (.warpToSlot slot) => svm.warpToSlot slot
  | .setter (.setRent lamportsPerByte) => svm.setRent lamportsPerByte
  | .setEpochSchedule slotsPerEpoch leaderScheduleSlotOffset warmup firstNormalEpoch
      firstNormalSlot =>
      svm.setEpochSchedule slotsPerEpoch leaderScheduleSlotOffset warmup firstNormalEpoch
        firstNormalSlot
  | .setComputeBudget maxUnits => svm.setComputeBudget maxUnits

def execRaw (svm : QuasarSvmBase) (ixBuf acctBuf : Bytes) (order : SetOrder) : Code Bytes :=
  Native.executeWith .error textOr svm.ptr ixBuf acctBuf order

end QuasarSvmBase

section Packages

variable (toUtf8 : Bytes → String)

/-- Both packages build their `ExecutionResult` from the decoded buffer. -/
def exec (svm : QuasarSvmBase) (ixBuf acctBuf : Bytes) (order : SetOrder) :
    Code InternalResult := do
  let raw ← svm.execRaw ixBuf acctBuf order
  match deserializeResult toUtf8 raw with
  | .ok r => pure r.1
  | .error e => throw (.decode e)

/-- What the packages encode is executed, unless the encoder throws. -/
def execEncoded (svm : QuasarSvmBase) (ixBuf acctBuf : Except EncodeError Bytes)
    (order : SetOrder) : Code InternalResult :=
  match ixBuf, acctBuf with
  | .ok ixBuf, .ok acctBuf => exec toUtf8 svm ixBuf acctBuf order
  | .error e, _ => throw (.encode e)
  | .ok _, .error e => throw (.encode e)

/-- `addProgram`, once the id is bytes. -/
def addProgramAt (svm : QuasarSvmBase) (programId : Option Bytes) (elf : Bytes)
    (loaderVersion : UInt8) : Code Unit :=
  match programIdAt programId with
  | none => throw (.encode .invalidAddress)
  | some id =>
      Native.callWith QuasarSvmBase.check svm.ptr (.addProgram (some id) (some elf) loaderVersion)

/-- One of the programs that a constructor loads. -/
def loadIf (asked : Option Bool) (load : Code Unit) : Code Unit :=
  if asked.getD false then load else pure ()

/-- The constructors of the packages, which differ in `addProgram`. -/
def construct (addProgram : QuasarSvmBase → String → Bytes → UInt8 → Code Unit)
    (loadElf : String → Bytes) (config : QuasarSvmConfig) : Code QuasarSvmBase := do
  let svm ← QuasarSvmBase.new
  loadIf config.token
    (addProgram svm "TokenkegQfeZyiNwAJbNbGKPFXCWuBvf9Ss623VQ5DA" (loadElf "spl_token.so") 2)
  loadIf config.token2022
    (addProgram svm "TokenzQdBNbLqP5VEhdkAS6EPFLC1PHnBqCXEpPxuEb" (loadElf "spl_token_2022.so") 3)
  loadIf config.associatedToken
    (addProgram svm "ATokenGPvbdGVxr1b2hvZbsiqW5xWH25efTNsLJA8knL"
      (loadElf "spl_associated_token.so") 2)
  pure svm

end Packages

end Node

/-! ## Kit -/

namespace Kit

open Node

/-- A method of the class, an execution with the order that its call draws. -/
inductive Method
  | addProgram (programId : String) (elf : Bytes) (loaderVersion : UInt8)
  | setter (call : ConfigurationCall)
  | processInstruction (instruction : Instruction) (accounts : List Account) (order : SetOrder)
  | processInstructionChain (instructions : List Instruction) (accounts : List Account)
      (order : SetOrder)

variable (codec : AddressCodec) (toUtf8 : Bytes → String)

def addProgram (svm : QuasarSvmBase) (programId : String) (elf : Bytes) (loaderVersion : UInt8) :
    Code Unit :=
  addProgramAt svm (codec.encode programId) elf loaderVersion

def QuasarSvm.new (loadElf : String → Bytes) (config : QuasarSvmConfig) : Code QuasarSvmBase :=
  construct (addProgram codec) loadElf config

def processInstructionChain (svm : QuasarSvmBase) (instructions : List Instruction)
    (accounts : List Account) (order : SetOrder) : Code InternalResult :=
  execEncoded toUtf8 svm (serializeInstructions codec instructions)
    (serializeAccounts codec accounts) order

def processInstruction (svm : QuasarSvmBase) (instruction : Instruction) (accounts : List Account)
    (order : SetOrder) : Code InternalResult :=
  execEncoded toUtf8 svm (serializeInstructions codec [instruction])
    (serializeAccounts codec accounts) order

def perform (svm : QuasarSvmBase) : Method → Code (Option InternalResult)
  | .addProgram programId elf loaderVersion => do
      addProgram codec svm programId elf loaderVersion
      pure none
  | .setter call => do
      svm.set call
      pure none
  | .processInstruction instruction accounts order => do
      let r ← processInstruction codec toUtf8 svm instruction accounts order
      pure (some r)
  | .processInstructionChain instructions accounts order => do
      let r ← processInstructionChain codec toUtf8 svm instructions accounts order
      pure (some r)

end Kit

/-! ## web3.js -/

namespace Web3

open Node

/-- A method of the class, an execution with the order that its call draws. -/
inductive Method
  | addProgram (programId : Address) (elf : Bytes) (loaderVersion : UInt8)
  | setter (call : ConfigurationCall)
  | processInstruction (instruction : SupportedInstruction) (accounts : List KeyedAccountInfo)
      (order : SetOrder)
  | processInstructionChain (instructions : List SupportedInstruction)
      (accounts : List KeyedAccountInfo) (order : SetOrder)

variable (codec : AddressCodec) (toUtf8 : Bytes → String)

def addProgram (svm : QuasarSvmBase) (programId : Address) (elf : Bytes) (loaderVersion : UInt8) :
    Code Unit :=
  addProgramAt svm (some programId.bytes) elf loaderVersion

/-- `new Address(text)` throws for a text that is no address. -/
def addProgramText (svm : QuasarSvmBase) (programId : String) (elf : Bytes)
    (loaderVersion : UInt8) : Code Unit :=
  match codec.addressBytes programId with
  | none => throw (.encode .invalidAddress)
  | some bytes => addProgram svm { bytes := bytes } elf loaderVersion

def QuasarSvm.new (loadElf : String → Bytes) (config : QuasarSvmConfig) : Code QuasarSvmBase :=
  construct (addProgramText codec) loadElf config

def processInstructionChain (svm : QuasarSvmBase) (instructions : List SupportedInstruction)
    (accounts : List KeyedAccountInfo) (order : SetOrder) : Code InternalResult :=
  execEncoded toUtf8 svm (serializeInstructions codec instructions) (serializeAccounts accounts)
    order

def processInstruction (svm : QuasarSvmBase) (instruction : SupportedInstruction)
    (accounts : List KeyedAccountInfo) (order : SetOrder) : Code InternalResult :=
  execEncoded toUtf8 svm (serializeInstructions codec [instruction]) (serializeAccounts accounts)
    order

def perform (svm : QuasarSvmBase) : Method → Code (Option InternalResult)
  | .addProgram programId elf loaderVersion => do
      addProgram svm programId elf loaderVersion
      pure none
  | .setter call => do
      svm.set call
      pure none
  | .processInstruction instruction accounts order => do
      let r ← processInstruction codec toUtf8 svm instruction accounts order
      pure (some r)
  | .processInstructionChain instructions accounts order => do
      let r ← processInstructionChain codec toUtf8 svm instructions accounts order
      pure (some r)

end Web3

/-! ## Python -/

namespace Python

inductive Thrown
  | runtimeError (message : String)
  | typeError
  | encode (e : EncodeError)
  | decode (e : DecodeError)

abbrev Code : Type → Type :=
  ExceptT Thrown (Script Request Answer)

/-- The object of the class. -/
structure QuasarSvm where
  ptr : Pointer
  freed : Bool

/-- An account as a caller passes it; the lamports are any integer. -/
structure AccountInput where
  address : Pubkey
  owner : Pubkey
  lamports : Int
  data : Bytes
  executable : Bool

/-- `keyed_account_to_wire` -/
def keyedAccountToWire (acct : AccountInput) : Account :=
  { pubkey := acct.address.bytes
    owner := acct.owner.bytes
    lamports := acct.lamports
    data := acct.data
    executable := acct.executable }

/-- `solders_instruction_to_wire` -/
def soldersInstructionToWire (ix : Svm.Instruction) : Instruction :=
  { programId := ix.programId.bytes
    data := ix.data
    accounts := ix.accounts.map fun m =>
      { pubkey := m.pubkey.bytes, isSigner := m.isSigner, isWritable := m.isWritable } }

/-- A method of the class, an execution with the order that its call draws. -/
inductive Method
  | addProgram (programId : Pubkey) (elf : Bytes) (loaderVersion : UInt8)
  | setter (call : ConfigurationCall)
  | processInstruction (instruction : Svm.Instruction) (accounts : List AccountInput)
      (order : SetOrder)
  | processInstructionChain (instructions : List Svm.Instruction) (accounts : List AccountInput)
      (order : SetOrder)

/-- `_ffi.last_error() or "unknown"` -/
def textOr (err : Option String) : String :=
  match err with
  | some text => if text = "" then "unknown" else text
  | none => "unknown"

namespace QuasarSvm

/-- `_check` -/
def check (code : Int32) : Code Unit :=
  Native.checkWith .runtimeError textOr code

/-- `_ffi._execute` -/
def execute (svm : QuasarSvm) (ixBuf acctBuf : Bytes) (order : SetOrder) : Code Bytes :=
  Native.executeWith .runtimeError textOr svm.ptr ixBuf acctBuf order

def addProgram (svm : QuasarSvm) (programId : Pubkey) (elf : Bytes) (loaderVersion : UInt8) :
    Code Unit :=
  Native.callWith check svm.ptr (.addProgram (some programId) (some elf) loaderVersion)

/-- `__init__` up to the programs -/
def create : Code QuasarSvm := do
  let b ← Native.createWith .runtimeError textOr
  pure { ptr := some b, freed := false }

/-- One of the programs that the constructor loads. -/
def loadIf (asked : Bool) (load : Code Unit) : Code Unit :=
  if asked then load else pure ()

/-- `__init__` -/
def new (splTokenProgramId splToken2022ProgramId splAssociatedTokenProgramId : Pubkey)
    (loadElf : String → Bytes) (loadToken loadToken2022 loadAssociatedToken : Bool) :
    Code QuasarSvm := do
  let svm ← create
  loadIf loadToken (svm.addProgram splTokenProgramId (loadElf "spl_token.so") 2)
  loadIf loadToken2022 (svm.addProgram splToken2022ProgramId (loadElf "spl_token_2022.so") 3)
  loadIf loadAssociatedToken
    (svm.addProgram splAssociatedTokenProgramId (loadElf "spl_associated_token.so") 2)
  pure svm

/-- `free`, which `__exit__` and `__del__` call too. -/
def free (svm : QuasarSvm) : Script Request Answer QuasarSvm :=
  if svm.freed = false ∧ svm.ptr ≠ none then do
    let _ ← Script.request (.svmFree svm.ptr)
    pure { svm with freed := true }
  else
    pure svm

/-- `free`, any number of times. -/
def freeTimes (svm : QuasarSvm) : Nat → Script Request Answer QuasarSvm
  | 0 => pure svm
  | n + 1 => svm.free.bind fun svm => freeTimes svm n

def configure (svm : QuasarSvm) (call : ConfigurationCall) : Code Unit :=
  Native.callWith check svm.ptr (.configure call)

def setClock (svm : QuasarSvm) (slot : UInt64) (epochStartTimestamp : Int64)
    (epoch leaderScheduleEpoch : UInt64) (unixTimestamp : Int64) : Code Unit :=
  svm.configure
    (.setter (.setClock slot epochStartTimestamp epoch leaderScheduleEpoch unixTimestamp))

def warpToSlot (svm : QuasarSvm) (slot : UInt64) : Code Unit :=
  svm.configure (.setter (.warpToSlot slot))

/-- `_ffi.svm_set_rent` wants four arguments and is given two, so nothing is called. -/
def setRent (_svm : QuasarSvm) (_lamportsPerByteYear : UInt64) : Code Unit :=
  throw .typeError

def setEpochSchedule (svm : QuasarSvm) (slotsPerEpoch leaderScheduleSlotOffset : UInt64)
    (warmup : Bool) (firstNormalEpoch firstNormalSlot : UInt64) : Code Unit :=
  svm.configure
    (.setEpochSchedule slotsPerEpoch leaderScheduleSlotOffset warmup firstNormalEpoch
      firstNormalSlot)

def setComputeBudget (svm : QuasarSvm) (maxUnits : UInt64) : Code Unit :=
  svm.configure (.setComputeBudget maxUnits)

/-- The setters of the class, by the call that each of them stands for. -/
def set (svm : QuasarSvm) : ConfigurationCall → Code Unit
  | .setter (.setClock slot epochStartTimestamp epoch leaderScheduleEpoch unixTimestamp) =>
      svm.setClock slot epochStartTimestamp epoch leaderScheduleEpoch unixTimestamp
  | .setter (.warpToSlot slot) => svm.warpToSlot slot
  | .setter (.setRent lamportsPerByteYear) => svm.setRent lamportsPerByteYear
  | .setEpochSchedule slotsPerEpoch leaderScheduleSlotOffset warmup firstNormalEpoch
      firstNormalSlot =>
      svm.setEpochSchedule slotsPerEpoch leaderScheduleSlotOffset warmup firstNormalEpoch
        firstNormalSlot
  | .setComputeBudget maxUnits => svm.setComputeBudget maxUnits

/-- Both methods build their `ExecutionResult` from the decoded buffer. -/
def exec (svm : QuasarSvm) (ixBuf acctBuf : Bytes) (order : SetOrder) :
    Code ExecutionResult := do
  let raw ← svm.execute ixBuf acctBuf order
  match deserializeResult raw with
  | .ok r => pure r.1
  | .error e => throw (.decode e)

/-- What the class encodes is executed, unless the encoder throws. -/
def execEncoded (svm : QuasarSvm) (ixBuf acctBuf : Except EncodeError Bytes)
    (order : SetOrder) : Code ExecutionResult :=
  match ixBuf, acctBuf with
  | .ok ixBuf, .ok acctBuf => svm.exec ixBuf acctBuf order
  | .error e, _ => throw (.encode e)
  | .ok _, .error e => throw (.encode e)

def processInstructionChain (svm : QuasarSvm) (instructions : List Svm.Instruction)
    (accounts : List AccountInput) (order : SetOrder) : Code ExecutionResult :=
  svm.execEncoded (serializeInstructions (instructions.map soldersInstructionToWire))
    (serializeAccounts (accounts.map keyedAccountToWire)) order

def processInstruction (svm : QuasarSvm) (instruction : Svm.Instruction)
    (accounts : List AccountInput) (order : SetOrder) : Code ExecutionResult :=
  svm.execEncoded (serializeInstructions [soldersInstructionToWire instruction])
    (serializeAccounts (accounts.map keyedAccountToWire)) order

def perform (svm : QuasarSvm) : Method → Code (Option ExecutionResult)
  | .addProgram programId elf loaderVersion => do
      svm.addProgram programId elf loaderVersion
      pure none
  | .setter call => do
      svm.set call
      pure none
  | .processInstruction instruction accounts order => do
      let r ← svm.processInstruction instruction accounts order
      pure (some r)
  | .processInstructionChain instructions accounts order => do
      let r ← svm.processInstructionChain instructions accounts order
      pure (some r)

end QuasarSvm
end Python

end Bindings
end Quasar
