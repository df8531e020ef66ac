import Mathlib.Data.List.Dedup
import Mathlib.Data.List.Sort
import Quasar.Lib.LittleEndian
import Quasar.Svm.Vm

/-!
# Reference — an executable instance of the external functions

Message compilation follows the documented order of account keys: writable signers, read-only
signers, writable and read-only non-signers, each group sorted.  The other functions of `crates` are
constants of the right type, apart from the ids, which are pairwise distinct.  `introspectionCrates`,
`sysvarCrates` and `loaderCrates` replace some of the constants by codecs that tell values apart.
-/

namespace Quasar
namespace Svm
namespace Reference

open Lib
open Lib.LittleEndian (putU64 getU64 toBytes ofBytes)

/-! ## Message compilation -/

/-- Lexicographic order of byte strings. -/
def bytesLe : Bytes → Bytes → Bool
  | [], _ => true
  | _ :: _, [] => false
  | a :: as, b :: bs => a < b || (a = b && bytesLe as bs)

/-- The keys that the instructions mention, each once, in order. -/
def mentionedKeys (ixs : List Instruction) : List Pubkey :=
  ((ixs.flatMap fun ix => ix.programId :: ix.accounts.map AccountMeta.pubkey).dedup).insertionSort
    fun a b => bytesLe a.bytes b.bytes

def isSigner (ixs : List Instruction) (k : Pubkey) : Bool :=
  ixs.any fun ix => ix.accounts.any fun m => m.pubkey = k && m.isSigner

def isWritable (ixs : List Instruction) (k : Pubkey) : Bool :=
  ixs.any fun ix => ix.accounts.any fun m => m.pubkey = k && m.isWritable

/-- The mentioned keys with the given privileges. -/
def keyGroup (ixs : List Instruction) (signer writable : Bool) : List Pubkey :=
  (mentionedKeys ixs).filter fun k => isSigner ixs k = signer && isWritable ixs k = writable

def accountKeys (ixs : List Instruction) : List Pubkey :=
  keyGroup ixs true true ++ (keyGroup ixs true false ++
    (keyGroup ixs false true ++ keyGroup ixs false false))

/-- The position of a key as an 8-bit index. -/
def keyIndex (keys : List Pubkey) (k : Pubkey) : UInt8 :=
  UInt8.ofNat (keys.findIdx fun k' => k' = k)

def messageNew (ixs : List Instruction) : Message :=
  let keys := accountKeys ixs
  { header :=
      { numRequiredSignatures :=
          UInt8.ofNat ((keyGroup ixs true true).length + (keyGroup ixs true false).length)
        numReadonlySignedAccounts := UInt8.ofNat (keyGroup ixs true false).length
        numReadonlyUnsignedAccounts := UInt8.ofNat (keyGroup ixs false false).length }
    accountKeys := keys
    instructions := ixs.map fun ix =>
      { programIdIndex := keyIndex keys ix.programId
        accounts := ix.accounts.map fun m => keyIndex keys m.pubkey
        data := ix.data } }

theorem nodup_keyGroup (ixs : List Instruction) (signer writable : Bool) :
    (keyGroup ixs signer writable).Nodup := by
  refine List.Nodup.filter _ ?_
  have hperm := List.perm_insertionSort (fun a b : Pubkey => bytesLe a.bytes b.bytes)
    ((ixs.flatMap fun ix => ix.programId :: ix.accounts.map AccountMeta.pubkey).dedup)
  exact hperm.nodup_iff.2 (List.nodup_dedup _)

theorem privileges_of_mem {ixs : List Instruction} {signer writable : Bool} {k : Pubkey}
    (h : k ∈ keyGroup ixs signer writable) :
    isSigner ixs k = signer ∧ isWritable ixs k = writable := by
  simpa using (List.mem_filter.1 h).2

/-- Two groups that differ in a privilege share no key. -/
theorem disjoint_keyGroup (ixs : List Instruction) {s w s' w' : Bool} (h : (s, w) ≠ (s', w')) :
    (keyGroup ixs s w).Disjoint (keyGroup ixs s' w') := by
  intro k hk hk'
  rcases privileges_of_mem hk with ⟨hs, hw⟩
  rcases privileges_of_mem hk' with ⟨hs', hw'⟩
  exact h (by simp [← hs, ← hw, ← hs', ← hw'])

/-- A compiled message has each account key once. -/
theorem nodup_accountKeys (ixs : List Instruction) : (messageNew ixs).accountKeys.Nodup := by
  refine (nodup_keyGroup ixs true true).append ?_ ?_
  · refine (nodup_keyGroup ixs true false).append ?_ ?_
    · refine (nodup_keyGroup ixs false true).append (nodup_keyGroup ixs false false) ?_
      exact disjoint_keyGroup ixs (by decide)
    · refine List.disjoint_append_right.2 ⟨?_, ?_⟩
      · exact disjoint_keyGroup ixs (by decide)
      · exact disjoint_keyGroup ixs (by decide)
  · refine List.disjoint_append_right.2 ⟨?_, List.disjoint_append_right.2 ⟨?_, ?_⟩⟩
    · exact disjoint_keyGroup ixs (by decide)
    · exact disjoint_keyGroup ixs (by decide)
    · exact disjoint_keyGroup ixs (by decide)

/-- A compiled message has exactly the keys that its instructions mention. -/
theorem mem_accountKeys_iff {ixs : List Instruction} {k : Pubkey} :
    k ∈ (messageNew ixs).accountKeys ↔
      ∃ ix ∈ ixs, ix.programId = k ∨ ∃ m ∈ ix.accounts, m.pubkey = k := by
  have hmentioned : k ∈ mentionedKeys ixs ↔
      ∃ ix ∈ ixs, ix.programId = k ∨ ∃ m ∈ ix.accounts, m.pubkey = k := by
    simp [mentionedKeys, List.mem_insertionSort, eq_comm (a := k)]
  have hgroup : ∀ signer writable, k ∈ keyGroup ixs signer writable ↔
      k ∈ mentionedKeys ixs ∧ isSigner ixs k = signer ∧ isWritable ixs k = writable := by
    intro signer writable
    simp [keyGroup]
  rw [← hmentioned]
  simp only [messageNew, accountKeys, List.mem_append, hgroup]
  -- A key falls into the group of its two privileges.
  cases isSigner ixs k with
  | false =>
      cases isWritable ixs k with
      | false => simp
      | true => simp
  | true =>
      cases isWritable ixs k with
      | false => simp
      | true => simp

/-! ## The instance -/

def sysvarId : Sysvar → Pubkey
  | .clock => Pubkey.filled 240
  | .epochRewards => Pubkey.filled 241
  | .epochSchedule => Pubkey.filled 242
  | .lastRestartSlot => Pubkey.filled 243
  | .rent => Pubkey.filled 244
  | .slotHashes => Pubkey.filled 245
  | .stakeHistory => Pubkey.filled 246
  | .recentBlockhashes => Pubkey.filled 247

/-- The lowercase hexadecimal text of an address; the real one is base 58. -/
def pubkeyToString (k : Pubkey) : String :=
  String.ofList (k.bytes.flatMap fun b => [Nat.digitChar (b.toNat / 16), Nat.digitChar (b.toNat % 16)])

def crates : Crates :=
  { messageNew := messageNew
    constructInstructionsData := fun _ => []
    findProgramAddress := fun _ programId => (programId, 255)
    minimumBalance := fun _ size => UInt64.ofNat ((128 + size) * 6960)
    rentDefault := { lamportsPerByte := 3480, exemptionThreshold := 0x4000000000000000, burnPercent := 50 }
    serializeSysvar := fun _ => []
    serializeLoaderState := fun _ => []
    sysvarDecodes := fun _ _ => false
    unpackTokenAccount := fun _ => none
    unpackMint := fun _ => none
    packTokenAccount := fun _ _ => []
    packMint := fun _ _ => []
    programCacheEntryNew := fun loader elf => some { accountOwner := loader, program := .loaded elf }
    pubkeyToString := pubkeyToString
    logBytesLimit := some 10000
    amountToF64 := fun _ => 0
    amountScaled := fun _ _ => 0
    hashSetIter := fun keys => keys.dedup
    getEpoch := fun _ slot => slot / 432000
    getLeaderScheduleEpoch := fun _ slot => slot / 432000 + 1
    slotHashesNew := fun hashes => hashes
    slotHashesAdd := fun hashes slot hash => (slot, hash) :: hashes
    sysvarId := sysvarId
    sdkSysvarId := Pubkey.filled 230
    sysvarOwnerId := Pubkey.filled 230
    instructionsSysvarId := Pubkey.filled 231
    systemProgramId := Pubkey.default
    nativeLoaderId := Pubkey.filled 232
    loaderV2Id := Pubkey.filled 233
    loaderV3Id := Pubkey.filled 234 }

/-- A VM with an empty store and no programs. -/
def emptyVm : QuasarSvm :=
  { computeBudget :=
      { computeUnitLimit := 1400000
        maxInstructionStackDepth := 5
        maxInstructionTraceLength := 64 }
    logger := none
    programCache := { cache := ProgramCacheForTxBatch.empty, entries := ∅ }
    sysvars :=
      { clock :=
          { slot := 0
            epochStartTimestamp := 0
            epoch := 0
            leaderScheduleEpoch := 0
            unixTimestamp := 0 }
        epochRewards :=
          { distributionStartingBlockHeight := 0
            numPartitions := 0
            parentBlockhash := defaultHash
            totalPoints := 0
            totalRewards := 0
            distributedRewards := 0
            active := false }
        epochSchedule :=
          { slotsPerEpoch := 432000
            leaderScheduleSlotOffset := 432000
            warmup := false
            firstNormalEpoch := 0
            firstNormalSlot := 0 }
        lastRestartSlot := { lastRestartSlot := 0 }
        rent := crates.rentDefault
        slotHashes := []
        stakeHistory := []
        recentBlockhashes := [] }
    accounts := ∅ }

/-! ## Instructions and a runtime -/

/-- A runtime whose every instruction succeeds and changes nothing. -/
def idleRuntime : Runtime :=
  { prepareTopLevelInstructions := fun _ _ => .ok InstructionTrace.empty
    processInstruction := fun inp =>
      { result := .ok ()
        computeUnitsConsumed := 0
        accountAfter := fun i =>
          ((inp.transactionContext.accounts[i]?).map Prod.snd).getD SolanaAccount.default
        returnData := inp.transactionContext.returnData
        trace := inp.transactionContext.trace
        storedPrograms := []
        computeMeter := inp.computeMeter
        logCollector := inp.logCollector
        executeUs := inp.executeUs } }

/-- An instruction of a program with no data, on the given accounts. -/
def instructionOn (programId : Pubkey) (keys : List Pubkey) : Instruction :=
  { programId := programId
    accounts := keys.map fun k =>
      { pubkey := k
        isSigner := false
        isWritable := false }
    data := [] }

/-! ## A transfer -/

/-- A runtime whose one instruction moves ten lamports from the first account to the second. -/
def transferRuntime : Runtime :=
  { prepareTopLevelInstructions := fun _ _ => .ok InstructionTrace.empty
    processInstruction := fun inp =>
      let before := fun i =>
        ((inp.transactionContext.accounts[i]?).map Prod.snd).getD SolanaAccount.default
      { result := .ok ()
        computeUnitsConsumed := 0
        accountAfter := fun i =>
          if i = 0 then
            { before 0 with lamports := (before 0).lamports - 10 }
          else if i = 1 then
            { before 1 with lamports := (before 1).lamports + 10 }
          else
            before i
        returnData := (Pubkey.default, [])
        trace := InstructionTrace.empty
        storedPrograms := []
        computeMeter := inp.computeMeter
        logCollector := inp.logCollector
        executeUs := inp.executeUs } }

/-- The instruction: the first account signs and pays, the second receives. -/
def transferInstruction : Instruction :=
  { programId := Pubkey.filled 9
    accounts :=
      [{ pubkey := Pubkey.filled 1
         isSigner := true
         isWritable := true },
       { pubkey := Pubkey.filled 2
         isSigner := false
         isWritable := true }]
    data := [] }

def walletOf (k : Pubkey) : Account :=
  { address := k
    lamports := 1000
    data := []
    owner := Pubkey.default
    executable := false }

/-- A VM that stores the payer and nothing else. -/
def payerVm : QuasarSvm :=
  emptyVm.setAccount (walletOf (Pubkey.filled 1))

/-! ## The instructions sysvar -/

/-- The entry of one instruction: its accounts with their flags, its program and its data. -/
def instructionEntry (ix : Instruction) : Bytes :=
  toBytes 2 ix.accounts.length ++
    ix.accounts.flatMap (fun m =>
      ((if m.isSigner then 1 else 0) + (if m.isWritable then 2 else 0)) :: m.pubkey.bytes) ++
    ix.programId.bytes ++ toBytes 2 ix.data.length ++ ix.data

/-- The number of instructions, the offset of each entry, the entries, and room for an index. -/
def constructInstructionsData (ixs : List Instruction) : Bytes :=
  let entries := ixs.map instructionEntry
  let offsets := (List.range ixs.length).map fun i =>
    2 + 2 * ixs.length + ((entries.take i).map List.length).sum
  toBytes 2 ixs.length ++ offsets.flatMap (toBytes 2) ++
    entries.flatten ++ [0, 0]

/-- The reference instance with the sysvar's encoding. -/
def introspectionCrates : Crates :=
  { crates with constructInstructionsData := constructInstructionsData }

/-! ## The codec of loader states -/

/-- The number of the state, and its fields in order; an absent authority is one zero byte. -/
def serializeLoaderState : UpgradeableLoaderState → Bytes
  | .program programdataAddress => toBytes 4 2 ++ programdataAddress.bytes
  | .programData slot none => toBytes 4 3 ++ putU64 slot ++ [0]
  | .programData slot (some authority) => toBytes 4 3 ++ putU64 slot ++ (1 :: authority.bytes)

/-- The reference instance with loader states, and with one programdata address. -/
def loaderCrates : Crates :=
  { crates with
    findProgramAddress := fun _ _ => (Pubkey.filled 10, 255)
    serializeLoaderState := serializeLoaderState }

/-! ## The codec of the sysvars -/

/-- The 32 bytes of a hash. -/
def hashBytes (h : Hash) : Bytes :=
  (h ++ List.replicate 32 0).take 32

def boolByte (b : Bool) : UInt8 :=
  if b then 1 else 0

/-- A list behind its length. -/
def listBytes {α : Type} (entry : α → Bytes) (l : List α) : Bytes :=
  toBytes 8 l.length ++ l.flatMap entry

/-- The fields in order, integers in little-endian order. -/
def serializeSysvar : SysvarValue → Bytes
  | .clock v =>
      putU64 v.slot ++ (putU64 v.epochStartTimestamp.toUInt64 ++ (putU64 v.epoch ++
        (putU64 v.leaderScheduleEpoch ++ putU64 v.unixTimestamp.toUInt64)))
  | .epochRewards v =>
      putU64 v.distributionStartingBlockHeight ++ putU64 v.numPartitions ++
        hashBytes v.parentBlockhash ++ toBytes 16 v.totalPoints ++ putU64 v.totalRewards ++
        putU64 v.distributedRewards ++ [boolByte v.active]
  | .epochSchedule v =>
      putU64 v.slotsPerEpoch ++ putU64 v.leaderScheduleSlotOffset ++ [boolByte v.warmup] ++
        (putU64 v.firstNormalEpoch ++ putU64 v.firstNormalSlot)
  | .lastRestartSlot v => putU64 v.lastRestartSlot
  | .rent v => putU64 v.lamportsPerByte ++ (putU64 v.exemptionThreshold ++ [v.burnPercent])
  | .slotHashes v => listBytes (fun e => putU64 e.1 ++ hashBytes e.2) v
  | .stakeHistory v =>
      listBytes (fun e => putU64 e.1 ++ putU64 e.2.effective ++ putU64 e.2.activating ++
        putU64 e.2.deactivating) v
  | .recentBlockhashes v => listBytes (fun e => hashBytes e.1 ++ putU64 e.2) v

/-- The data holds as many entries as it says. -/
def listDecodes (entryLength : Nat) (data : Bytes) : Bool :=
  8 ≤ data.length && 8 + ofBytes (data.take 8) * entryLength ≤ data.length

/-- The data holds a flag at the position. -/
def flagDecodes (position : Nat) (data : Bytes) : Bool :=
  data[position]? = some 0 || data[position]? = some 1

/-- Data decodes when it is long enough and its flags are flags; a rest is ignored. -/
def sysvarDecodes (s : Sysvar) (data : Bytes) : Bool :=
  match s with
  | .clock => 40 ≤ data.length
  | .epochRewards => 81 ≤ data.length && flagDecodes 80 data
  | .epochSchedule => 33 ≤ data.length && flagDecodes 16 data
  | .lastRestartSlot => 8 ≤ data.length
  | .rent => 17 ≤ data.length
  | .slotHashes => listDecodes 40 data
  | .stakeHistory => listDecodes 32 data
  | .recentBlockhashes => listDecodes 40 data

/-- The reference instance with the codec of the sysvars. -/
def sysvarCrates : Crates :=
  { crates with
    serializeSysvar := serializeSysvar
    sysvarDecodes := sysvarDecodes }

@[simp] theorem length_hashBytes (h : Hash) : (hashBytes h).length = 32 := by
  simp [hashBytes]

theorem flagDecodes_append (front rest : Bytes) (b : Bool) :
    flagDecodes front.length (front ++ boolByte b :: rest) = true := by
  cases b with
  | false => simp [flagDecodes, boolByte]
  | true => simp [flagDecodes, boolByte]

/-- A serialized list decodes, also where its length does not fit into 64 bits. -/
theorem listDecodes_listBytes {α : Type} (entry : α → Bytes) (entryLength : Nat)
    (hentry : ∀ e, (entry e).length = entryLength) (l : List α) :
    listDecodes entryLength (listBytes entry l) = true := by
  have htotal : (l.flatMap entry).length = l.length * entryLength := by
    induction l with
    | nil => simp
    | cons e l ih => simp [hentry, ih, Nat.succ_mul, Nat.add_comm]
  have hle : l.length % 256 ^ 8 * entryLength ≤ l.length * entryLength :=
    Nat.mul_le_mul_right entryLength (Nat.mod_le _ _)
  simpa [listDecodes, listBytes, htotal, LittleEndian.ofBytes_toBytes] using hle

theorem sysvarDecodes_serializeSysvar (sv : Sysvars) (s : Sysvar) :
    sysvarDecodes s (serializeSysvar (sv.get s)) = true := by
  cases s with
  | clock => simp [sysvarDecodes, serializeSysvar, Sysvars.get]
  | epochRewards =>
      have hflag := flagDecodes_append
        (putU64 sv.epochRewards.distributionStartingBlockHeight ++
          putU64 sv.epochRewards.numPartitions ++ hashBytes sv.epochRewards.parentBlockhash ++
          toBytes 16 sv.epochRewards.totalPoints ++ putU64 sv.epochRewards.totalRewards ++
          putU64 sv.epochRewards.distributedRewards) [] sv.epochRewards.active
      simpa [sysvarDecodes, serializeSysvar, Sysvars.get] using hflag
  | epochSchedule =>
      have hflag := flagDecodes_append
        (putU64 sv.epochSchedule.slotsPerEpoch ++ putU64 sv.epochSchedule.leaderScheduleSlotOffset)
        (putU64 sv.epochSchedule.firstNormalEpoch ++ putU64 sv.epochSchedule.firstNormalSlot)
        sv.epochSchedule.warmup
      simpa [sysvarDecodes, serializeSysvar, Sysvars.get] using hflag
  | lastRestartSlot => simp [sysvarDecodes, serializeSysvar, Sysvars.get]
  | rent => simp [sysvarDecodes, serializeSysvar, Sysvars.get]
  | slotHashes => exact listDecodes_listBytes _ 40 (by simp) _
  | stakeHistory => exact listDecodes_listBytes _ 32 (by simp) _
  | recentBlockhashes => exact listDecodes_listBytes _ 40 (by simp) _

theorem putU64_injective {v w : UInt64} (h : putU64 v = putU64 w) : v = w := by
  simpa using congrArg getU64 h

/-- A clock can be read off its bytes. -/
theorem serializeSysvar_clock_injective {v w : Clock}
    (h : serializeSysvar (.clock v) = serializeSysvar (.clock w)) : v = w := by
  rcases List.append_inj h (by simp) with ⟨hslot, h⟩
  rcases List.append_inj h (by simp) with ⟨hstart, h⟩
  rcases List.append_inj h (by simp) with ⟨hepoch, h⟩
  rcases List.append_inj h (by simp) with ⟨hleader, hunix⟩
  have hstart' : v.epochStartTimestamp = w.epochStartTimestamp :=
    congrArg Int64.ofUInt64 (putU64_injective hstart)
  have hunix' : v.unixTimestamp = w.unixTimestamp :=
    congrArg Int64.ofUInt64 (putU64_injective hunix)
  cases v with
  | mk slot start epoch leader unix =>
      cases w with
      | mk slot' start' epoch' leader' unix' =>
          simpa using ⟨putU64_injective hslot, hstart', putU64_injective hepoch,
            putU64_injective hleader, hunix'⟩

/-! ## The list of slot hashes -/

/-- Put an entry at its place in descending order of the slots, or over the entry of its slot. -/
def insertSlotHash (slot : UInt64) (hash : Hash) : SlotHashes → SlotHashes
  | [] => [(slot, hash)]
  | e :: rest =>
      if e.1 = slot then (slot, hash) :: rest
      else if e.1 < slot then (slot, hash) :: e :: rest
      else e :: insertSlotHash slot hash rest

/-- The reference instance with the list of slot hashes. -/
def slotHashCrates : Crates :=
  { crates with
    slotHashesNew := fun entries => entries.mergeSort fun a b => b.1 ≤ a.1
    slotHashesAdd := fun hashes slot hash =>
      (insertSlotHash slot hash hashes).take slotHashesMaxEntries }

/-- The empty VM with the default sysvars. -/
def freshVm : QuasarSvm :=
  { emptyVm with sysvars := Sysvars.default slotHashCrates }

/-! ## The codec of token accounts and mints -/

/-- The 32 bytes of a key at an offset. -/
def keyAt (data : Bytes) (offset : Nat) : Option Pubkey :=
  if h : ((data.drop offset).take 32).length = 32 then some ⟨(data.drop offset).take 32, h⟩ else none

/-- The presence of a value behind a four-byte tag; another tag does not decode. -/
def tagAt (data : Bytes) (offset : Nat) : Option Bool :=
  if (data.drop offset).take 4 = [0, 0, 0, 0] then some false
  else if (data.drop offset).take 4 = [1, 0, 0, 0] then some true
  else none

def keyOption (data : Bytes) (offset : Nat) : Option (Option Pubkey) :=
  match tagAt data offset with
  | none => none
  | some false => some none
  | some true => (keyAt data (offset + 4)).map some

def u64Option (data : Bytes) (offset : Nat) : Option (Option UInt64) :=
  (tagAt data offset).map fun present =>
    if present then some (getU64 ((data.drop (offset + 4)).take 8)) else none

/-- The state of a token account; one that is not initialized does not unpack. -/
def stateAt (data : Bytes) (offset : Nat) : Option AccountState :=
  match data[offset]? with
  | some 1 => some .initialized
  | some 2 => some .frozen
  | _ => none

def unpackTokenAccount (data : Bytes) : Option SplTokenAccount :=
  if data.length = splTokenAccountLen then
    (keyAt data 0).bind fun mint => (keyAt data 32).bind fun owner =>
      (keyOption data 72).bind fun delegate => (stateAt data 108).bind fun state =>
        (u64Option data 109).bind fun isNative => (keyOption data 129).map fun closeAuthority =>
          { mint := mint
            owner := owner
            amount := getU64 ((data.drop 64).take 8)
            delegate := delegate
            state := state
            isNative := isNative
            delegatedAmount := getU64 ((data.drop 121).take 8)
            closeAuthority := closeAuthority }
  else
    none

def unpackMint (data : Bytes) : Option SplMint :=
  if data.length = splMintLen ∧ data[45]? = some 1 then
    (keyOption data 0).bind fun mintAuthority => (keyOption data 46).map fun freezeAuthority =>
      { mintAuthority := mintAuthority
        supply := getU64 ((data.drop 36).take 8)
        decimals := data.getD 44 0
        isInitialized := true
        freezeAuthority := freezeAuthority }
  else
    none

/-- The reference instance that unpacks token accounts and mints. -/
def tokenCrates : Crates :=
  { crates with
    unpackTokenAccount := unpackTokenAccount
    unpackMint := unpackMint }

/-- An account of the program with the data of a token account of the mint, without tokens. -/
def tokenAccountOf (program mint : Pubkey) : SolanaAccount :=
  { SolanaAccount.default with
    data := mint.bytes ++ List.replicate 76 0 ++ [1] ++ List.replicate 56 0
    owner := program }

/-- An account of the program with the data of a mint, without a supply. -/
def mintAccountOf (program : Pubkey) (decimals : UInt8) : SolanaAccount :=
  { SolanaAccount.default with
    data := List.replicate 44 0 ++ [decimals, 1] ++ List.replicate 36 0
    owner := program }

end Reference
end Svm
end Quasar
