import Quasar.Svm.Error

/-!
# Crates — the functions the engine takes from its dependencies

The engine calls into crates that are not part of the repository: message compilation, the
instructions sysvar encoder, program-derived addresses, `bincode`, SPL token unpacking, rent, the
program loader.  `Crates` collects them as one record of functions and constants, so that every
definition over it is a definition for any of their implementations.
-/

namespace Quasar
namespace Svm

/-- IEEE double, carried as its 64 bits. -/
abbrev F64 := UInt64

abbrev Hash := Bytes

/-! ## Messages -/

structure MessageHeader where
  numRequiredSignatures : UInt8
  numReadonlySignedAccounts : UInt8
  numReadonlyUnsignedAccounts : UInt8
  deriving DecidableEq

structure CompiledInstruction where
  programIdIndex : UInt8
  accounts : Bytes
  data : Bytes
  deriving DecidableEq

structure Message where
  header : MessageHeader
  accountKeys : List Pubkey
  instructions : List CompiledInstruction
  deriving DecidableEq

/-- `SanitizedMessage::Legacy` over a message, with no reserved account keys. -/
structure SanitizedMessage where
  message : Message
  deriving DecidableEq

namespace SanitizedMessage

def accountKeys (m : SanitizedMessage) : List Pubkey :=
  m.message.accountKeys

end SanitizedMessage

/-! ## Sysvars -/

structure Clock where
  slot : UInt64
  epochStartTimestamp : Int64
  epoch : UInt64
  leaderScheduleEpoch : UInt64
  unixTimestamp : Int64
  deriving DecidableEq

structure EpochRewards where
  distributionStartingBlockHeight : UInt64
  numPartitions : UInt64
  parentBlockhash : Hash
  totalPoints : Nat
  totalRewards : UInt64
  distributedRewards : UInt64
  active : Bool
  deriving DecidableEq

structure EpochSchedule where
  slotsPerEpoch : UInt64
  leaderScheduleSlotOffset : UInt64
  warmup : Bool
  firstNormalEpoch : UInt64
  firstNormalSlot : UInt64
  deriving DecidableEq

structure LastRestartSlot where
  lastRestartSlot : UInt64
  deriving DecidableEq

structure Rent where
  lamportsPerByte : UInt64
  exemptionThreshold : F64
  burnPercent : UInt8
  deriving DecidableEq

abbrev SlotHashes := List (UInt64 × Hash)

structure StakeHistoryEntry where
  effective : UInt64
  activating : UInt64
  deactivating : UInt64
  deriving DecidableEq

abbrev StakeHistory := List (UInt64 × StakeHistoryEntry)

/-- Recent blockhashes with their lamports per signature. -/
abbrev RecentBlockhashes := List (Hash × UInt64)

/-- A sysvar value, tagged by the sysvar it belongs to. -/
inductive SysvarValue
  | clock (v : Clock)
  | epochRewards (v : EpochRewards)
  | epochSchedule (v : EpochSchedule)
  | lastRestartSlot (v : LastRestartSlot)
  | rent (v : Rent)
  | slotHashes (v : SlotHashes)
  | stakeHistory (v : StakeHistory)
  | recentBlockhashes (v : RecentBlockhashes)
  deriving DecidableEq

/-- The sysvars the engine serves. -/
inductive Sysvar
  | clock
  | epochRewards
  | epochSchedule
  | lastRestartSlot
  | rent
  | slotHashes
  | stakeHistory
  | recentBlockhashes
  deriving DecidableEq, Repr

/-- Every sysvar, in the order in which the engine's branches test for them. -/
def Sysvar.all : List Sysvar :=
  [.clock, .epochRewards, .epochSchedule, .lastRestartSlot, .rent, .slotHashes, .stakeHistory,
    .recentBlockhashes]

/-! ## Loader and token states -/

inductive UpgradeableLoaderState
  | program (programdataAddress : Pubkey)
  | programData (slot : UInt64) (upgradeAuthorityAddress : Option Pubkey)
  deriving DecidableEq

inductive ProgramCacheEntryType
  | loaded (elf : Bytes)
  | builtin (name : String)
  | closed
  | delayVisibility
  deriving DecidableEq

structure ProgramCacheEntry where
  accountOwner : Pubkey
  program : ProgramCacheEntryType
  deriving DecidableEq

inductive AccountState
  | uninitialized
  | initialized
  | frozen
  deriving DecidableEq, Repr

/-- `spl_token::state::Account`. -/
structure SplTokenAccount where
  mint : Pubkey
  owner : Pubkey
  amount : UInt64
  delegate : Option Pubkey
  state : AccountState
  isNative : Option UInt64
  delegatedAmount : UInt64
  closeAuthority : Option Pubkey
  deriving DecidableEq

/-- `spl_token::state::Mint`. -/
structure SplMint where
  mintAuthority : Option Pubkey
  supply : UInt64
  decimals : UInt8
  isInitialized : Bool
  freezeAuthority : Option Pubkey
  deriving DecidableEq

/-- `SplTokenAccount::LEN`. -/
def splTokenAccountLen : Nat := 165

/-- `SplMint::LEN`. -/
def splMintLen : Nat := 82

/-! ## The record of external functions -/

structure Crates where
  /-- `Message::new(instructions, None)`.  It panics when the instructions mention more than 256
  keys; the model is about calls that mention no more. -/
  messageNew : List Instruction → Message
  constructInstructionsData : List Instruction → Bytes
  findProgramAddress : List Bytes → Pubkey → Pubkey × UInt8
  minimumBalance : Rent → Nat → UInt64
  rentDefault : Rent
  /-- `bincode::serialize` of a sysvar and of a loader state -/
  serializeSysvar : SysvarValue → Bytes
  serializeLoaderState : UpgradeableLoaderState → Bytes
  sysvarDecodes : Sysvar → Bytes → Bool
  /-- `SplTokenAccount::unpack` and `SplMint::unpack` -/
  unpackTokenAccount : Bytes → Option SplTokenAccount
  unpackMint : Bytes → Option SplMint
  /-- `SplTokenAccount::pack` and `SplMint::pack`, over the data that is there -/
  packTokenAccount : SplTokenAccount → Bytes → Bytes
  packMint : SplMint → Bytes → Bytes
  /-- `ProgramCacheEntry::new` for a loader and an ELF, absent when it fails -/
  programCacheEntryNew : Pubkey → Bytes → Option ProgramCacheEntry
  pubkeyToString : Pubkey → String
  /-- The byte limit of a collector made by `LogCollector::new_ref()` -/
  logBytesLimit : Option Nat
  /-- `amount as f64` and `amount as f64 / 10_f64.powi(decimals)` -/
  amountToF64 : UInt64 → F64
  amountScaled : UInt64 → UInt8 → F64
  /-- The order in which a call iterates over the `HashSet` that it builds from a list of keys.  The
  order belongs to the call: another call of the same process has another one. -/
  hashSetIter : List Pubkey → List Pubkey
  getEpoch : EpochSchedule → UInt64 → UInt64
  getLeaderScheduleEpoch : EpochSchedule → UInt64 → UInt64
  /-- `SlotHashes::new` and `SlotHashes::add` -/
  slotHashesNew : List (UInt64 × Hash) → SlotHashes
  slotHashesAdd : SlotHashes → UInt64 → Hash → SlotHashes
  /-- `Clock::id()` and its siblings, `solana_sdk_ids::sysvar::id()`, `solana_sysvar_id::ID` -/
  sysvarId : Sysvar → Pubkey
  sdkSysvarId : Pubkey
  sysvarOwnerId : Pubkey
  instructionsSysvarId : Pubkey
  systemProgramId : Pubkey
  nativeLoaderId : Pubkey
  loaderV2Id : Pubkey
  loaderV3Id : Pubkey

end Svm
end Quasar
