import Quasar.Lib.HashMap
import Quasar.Svm.Crates

/-!
# ProgramCache — loaded programs and their fallback accounts

The cache keeps each program twice: in `entries`, with its loader and ELF, and in the runtime's
batch cache, which the runtime itself extends while it executes loader instructions.  A lookup in
the batch cache consults the modified entries first.
-/

namespace Quasar
namespace Svm

open Lib

/-! ## The runtime's batch cache -/

structure ProgramCacheForTxBatch where
  entries : HashMap Pubkey ProgramCacheEntry
  modifiedEntries : HashMap Pubkey ProgramCacheEntry

namespace ProgramCacheForTxBatch

def empty : ProgramCacheForTxBatch :=
  { entries := ∅
    modifiedEntries := ∅ }

def find (c : ProgramCacheForTxBatch) (id : Pubkey) : Option ProgramCacheEntry :=
  (c.modifiedEntries.lookup id).or (c.entries.lookup id)

def replenish (c : ProgramCacheForTxBatch) (id : Pubkey) (entry : ProgramCacheEntry) :
    ProgramCacheForTxBatch :=
  { c with entries := c.entries.insert id entry }

/-- Keep the entries that a loader instruction replaced, closed or extended. -/
def storeModifiedEntries (c : ProgramCacheForTxBatch)
    (stored : List (Pubkey × ProgramCacheEntry)) : ProgramCacheForTxBatch :=
  { c with modifiedEntries := HashMap.insertAll c.modifiedEntries stored }

@[simp] theorem storeModifiedEntries_nil (c : ProgramCacheForTxBatch) :
    c.storeModifiedEntries [] = c := rfl

end ProgramCacheForTxBatch

/-! ## The engine's cache -/

structure CacheEntry where
  loaderKey : Pubkey
  elf : Option Bytes

structure ProgramCache where
  cache : ProgramCacheForTxBatch
  entries : HashMap Pubkey CacheEntry

namespace ProgramCache

variable (cr : Crates)

def replenish (pc : ProgramCache) (programId : Pubkey) (entry : ProgramCacheEntry)
    (elf : Option Bytes) : ProgramCache :=
  { cache := pc.cache.replenish programId entry
    entries := pc.entries.insert programId { loaderKey := entry.accountOwner, elf := elf } }

/-- Absent where the source panics: the ELF or the loader was rejected. -/
def addProgram (pc : ProgramCache) (programId loaderKey : Pubkey) (elf : Bytes) :
    Option ProgramCache :=
  (cr.programCacheEntryNew loaderKey elf).map fun entry =>
    pc.replenish programId entry (some elf)

def loadProgram (pc : ProgramCache) (programId : Pubkey) : Option ProgramCacheEntry :=
  pc.cache.find programId

/-- The ASCII bytes of `builtin`. -/
def builtinData : Bytes :=
  [98, 117, 105, 108, 116, 105, 110]

/-- Fallback accounts for a program that is in the cache.  A loader-v3 program has two: the program
account and its programdata account. -/
def maybeCreateProgramAccounts (pc : ProgramCache) (pubkey : Pubkey) :
    List (Pubkey × SolanaAccount) :=
  match pc.entries.lookup pubkey with
  | none => []
  | some entry =>
      if entry.loaderKey = cr.nativeLoaderId then
        [(pubkey,
          { SolanaAccount.default with
            lamports := cr.minimumBalance cr.rentDefault builtinData.length
            data := builtinData
            owner := cr.nativeLoaderId
            executable := true })]
      else if entry.loaderKey = cr.loaderV2Id then
        [(pubkey,
          { SolanaAccount.default with
            lamports := cr.minimumBalance cr.rentDefault 0
            data := []
            owner := cr.loaderV2Id
            executable := true })]
      else if entry.loaderKey = cr.loaderV3Id then
        let programdataAddress := (cr.findProgramAddress [pubkey.bytes] cr.loaderV3Id).1
        let programData := cr.serializeLoaderState (.program programdataAddress)
        let programdataHeader := cr.serializeLoaderState (.programData 0 none)
        let programdataBytes := match entry.elf with
          | some elf => programdataHeader ++ elf
          | none => programdataHeader
        [(pubkey,
          { SolanaAccount.default with
            lamports := cr.minimumBalance cr.rentDefault programData.length
            data := programData
            owner := cr.loaderV3Id
            executable := true }),
         (programdataAddress,
          { SolanaAccount.default with
            lamports := cr.minimumBalance cr.rentDefault programdataBytes.length
            data := programdataBytes
            owner := cr.loaderV3Id
            executable := false })]
      else
        [(pubkey, { SolanaAccount.default with executable := true })]

end ProgramCache

end Svm
end Quasar
