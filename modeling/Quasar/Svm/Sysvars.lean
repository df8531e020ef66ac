import Quasar.Svm.Crates

/-!
# Sysvars — the engine's sysvar values

The engine serves each sysvar in two ways: as an account built by `maybeCreateSysvarAccount`, and as
an entry of the runtime's sysvar cache built by `setupSysvarCache`.
-/

namespace Quasar
namespace Svm

structure Sysvars where
  clock : Clock
  epochRewards : EpochRewards
  epochSchedule : EpochSchedule
  lastRestartSlot : LastRestartSlot
  rent : Rent
  slotHashes : SlotHashes
  stakeHistory : StakeHistory
  recentBlockhashes : RecentBlockhashes

/-- `MAX_ENTRIES` of the slot hashes sysvar. -/
def slotHashesMaxEntries : Nat := 512

/-- The hash `Hash::default()`. -/
def defaultHash : Hash := List.replicate 32 0

/-! ## The default values -/

def Clock.default : Clock :=
  { slot := 0
    epochStartTimestamp := 0
    epoch := 0
    leaderScheduleEpoch := 0
    unixTimestamp := 0 }

def EpochRewards.default : EpochRewards :=
  { distributionStartingBlockHeight := 0
    numPartitions := 0
    parentBlockhash := defaultHash
    totalPoints := 0
    totalRewards := 0
    distributedRewards := 0
    active := false }

/-- `EpochSchedule::without_warmup()`, with `DEFAULT_SLOTS_PER_EPOCH`. -/
def EpochSchedule.withoutWarmup : EpochSchedule :=
  { slotsPerEpoch := 432000
    leaderScheduleSlotOffset := 432000
    warmup := false
    firstNormalEpoch := 0
    firstNormalSlot := 0 }

def StakeHistoryEntry.default : StakeHistoryEntry :=
  { effective := 0
    activating := 0
    deactivating := 0 }

def Sysvars.default (cr : Crates) : Sysvars :=
  let clock := Clock.default
  let defaultSlotHashes :=
    (List.replicate slotHashesMaxEntries ((0 : UInt64), defaultHash)).set 0 (clock.slot, defaultHash)
  { clock := clock
    epochRewards := EpochRewards.default
    epochSchedule := EpochSchedule.withoutWarmup
    lastRestartSlot := { lastRestartSlot := 0 }
    rent :=
      { lamportsPerByte := 6960
        -- The bits of `1.0`.
        exemptionThreshold := 0x3FF0000000000000
        burnPercent := 0 }
    slotHashes := cr.slotHashesNew defaultSlotHashes
    -- `StakeHistory::add` on the empty history.
    stakeHistory := [(clock.epoch, StakeHistoryEntry.default)]
    recentBlockhashes := [] }

/-! ## Serving the values -/

/-- The runtime's sysvar cache: the serialized value of each sysvar that has been filled in. -/
abbrev SysvarCache := Sysvar → Option Bytes

namespace SysvarCache

def default : SysvarCache := fun _ => none

/-- Ask for each missing sysvar and keep the answer when it decodes as that sysvar. -/
def fillMissingEntries (cr : Crates) (cache : SysvarCache) (getAccountData : Pubkey → Option Bytes) :
    SysvarCache := fun s =>
  match cache s with
  | some data => some data
  | none => (getAccountData (cr.sysvarId s)).filter (cr.sysvarDecodes s)

end SysvarCache

namespace Sysvars

variable (cr : Crates)

def get (sv : Sysvars) : Sysvar → SysvarValue
  | .clock => .clock sv.clock
  | .epochRewards => .epochRewards sv.epochRewards
  | .epochSchedule => .epochSchedule sv.epochSchedule
  | .lastRestartSlot => .lastRestartSlot sv.lastRestartSlot
  | .rent => .rent sv.rent
  | .slotHashes => .slotHashes sv.slotHashes
  | .stakeHistory => .stakeHistory sv.stakeHistory
  | .recentBlockhashes => .recentBlockhashes sv.recentBlockhashes

def sysvarAccount (sv : Sysvars) (value : SysvarValue) : SolanaAccount :=
  let data := cr.serializeSysvar value
  { SolanaAccount.default with
    lamports := cr.minimumBalance sv.rent data.length
    data := data
    owner := cr.sdkSysvarId
    executable := false }

def maybeCreateSysvarAccount (sv : Sysvars) (pubkey : Pubkey) : Option SolanaAccount :=
  (Sysvar.all.find? fun s => pubkey = cr.sysvarId s).map fun s => sv.sysvarAccount cr (sv.get s)

def warpToSlot (sv : Sysvars) (slot : UInt64) : Sysvars :=
  let slotDelta := slot.toNat - sv.clock.slot.toNat
  let clock : Clock :=
    { slot := slot
      epochStartTimestamp := 0
      epoch := cr.getEpoch sv.epochSchedule slot
      leaderScheduleEpoch := cr.getLeaderScheduleEpoch sv.epochSchedule slot
      unixTimestamp := 0 }
  let slotHashes :=
    if slotDelta > slotHashesMaxEntries then
      -- `(slot - 512..slot).rev()`: newest slot first
      let entries := (List.range slotHashesMaxEntries).map fun i =>
        (slot - 1 - UInt64.ofNat i, defaultHash)
      cr.slotHashesNew entries
    else
      let i := (sv.slotHashes.head?.map Prod.fst).getD 0
      let added := (List.range (slot.toNat - i.toNat)).map fun j => i + UInt64.ofNat j
      added.foldl (fun hashes s => cr.slotHashesAdd hashes s defaultHash) sv.slotHashes
  { sv with clock := clock, slotHashes := slotHashes }

/-- The runtime's sysvar cache: provided accounts first, then the engine's own values. -/
def setupSysvarCache (sv : Sysvars) (accounts : List (Pubkey × SolanaAccount)) : SysvarCache :=
  let fromAccounts := SysvarCache.default.fillMissingEntries cr fun pubkey =>
    (accounts.find? fun p => p.1 = pubkey).map fun p => p.2.data
  fromAccounts.fillMissingEntries cr fun pubkey =>
    (Sysvar.all.find? fun s => pubkey = cr.sysvarId s).map fun s => cr.serializeSysvar (sv.get s)

end Sysvars

end Svm
end Quasar
