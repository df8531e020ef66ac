import Quasar.Svm.ProgramHistory
import Quasar.Svm.Resolution
import Quasar.Svm.TokenBalances
import Quasar.Svm.Token

/-!
# Setup — how a VM is made, and what holds of every VM that was

A new VM has the built-in programs and the bundled ones that its configuration asks for.  The
program cache keeps two records of a program that is built in or added: a base entry for the runtime
and an entry for the fallback accounts.  They agree on the loader in a new VM, and every operation
keeps them in agreement.  The entries that the runtime stores itself are kept apart from the base ones
and have no fallback accounts.
-/

namespace Quasar
namespace Svm

open Lib

/-! ## The built-in programs -/

structure Builtin where
  programId : Pubkey
  name : String

def Builtin.programCacheEntry (cr : Crates) (b : Builtin) : ProgramCacheEntry :=
  { accountOwner := cr.nativeLoaderId
    program := .builtin b.name }

/-- `BUILTINS`: the system program and two loaders. -/
def builtins (cr : Crates) : List Builtin :=
  [{ programId := cr.systemProgramId
     name := "system_program" },
   { programId := cr.loaderV2Id
     name := "solana_bpf_loader_program" },
   { programId := cr.loaderV3Id
     name := "solana_bpf_loader_upgradeable_program" }]

namespace ProgramCache

def empty : ProgramCache :=
  { cache := ProgramCacheForTxBatch.empty
    entries := ∅ }

def new (cr : Crates) : ProgramCache :=
  (builtins cr).foldl
    (fun me builtin => me.replenish builtin.programId (builtin.programCacheEntry cr) none) empty

end ProgramCache

/-! ## The bundled programs -/

/-- What is compiled into the library: the ELF files of the token programs, and the compute budget of
`ComputeBudget::new_with_defaults`. -/
structure Bundle where
  splToken : Bytes
  splToken2022 : Bytes
  splAssociatedToken : Bytes
  computeBudget : ComputeBudget

/-- Which bundled programs are loaded. -/
structure QuasarSvmConfig where
  token : Bool
  token2022 : Bool
  associatedToken : Bool
  deriving DecidableEq

def QuasarSvmConfig.default : QuasarSvmConfig :=
  { token := true
    token2022 := true
    associatedToken := true }

namespace QuasarSvm

variable (cr : Crates) (bundle : Bundle)

/-! ## Builder calls -/

/-- Load a program with a specific loader; a panic leaves no VM, since the call consumes it. -/
def withProgramLoader (svm : QuasarSvm) (programId loader : Pubkey) (elf : Bytes) :
    Option QuasarSvm :=
  match svm.addProgram cr programId loader elf with
  | (svm, .ok ()) => some svm
  | (_, .error _) => none

def withProgram (svm : QuasarSvm) (programId : Pubkey) (elf : Bytes) : Option QuasarSvm :=
  svm.withProgramLoader cr programId cr.loaderV3Id elf

def withTokenProgram (svm : QuasarSvm) : Option QuasarSvm :=
  svm.withProgramLoader cr splTokenProgramId cr.loaderV2Id bundle.splToken

def withToken2022Program (svm : QuasarSvm) : Option QuasarSvm :=
  svm.withProgram cr splToken2022ProgramId bundle.splToken2022

def withAssociatedTokenProgram (svm : QuasarSvm) : Option QuasarSvm :=
  svm.withProgramLoader cr splAssociatedTokenProgramId cr.loaderV2Id bundle.splAssociatedToken

def withAccount (svm : QuasarSvm) (account : Account) : QuasarSvm :=
  svm.setAccount account

def withSlot (svm : QuasarSvm) (slot : UInt64) : QuasarSvm :=
  { svm with sysvars := svm.sysvars.warpToSlot cr slot }

def withComputeBudget (svm : QuasarSvm) (maxUnits : UInt64) : QuasarSvm :=
  { svm with computeBudget := { svm.computeBudget with computeUnitLimit := maxUnits } }

def withAirdrop (svm : QuasarSvm) (pubkey : Pubkey) (lamports : UInt64) : QuasarSvm :=
  svm.airdrop cr pubkey lamports

def withCreateAccount (svm : QuasarSvm) (pubkey : Pubkey) (space : Nat) (owner : Pubkey) :
    QuasarSvm :=
  svm.createAccount cr pubkey space owner

/-! ## Constructors -/

/-- A VM with the built-in programs only. -/
def bare : QuasarSvm :=
  { computeBudget := bundle.computeBudget
    logger := some (LogCollector.newRef cr.logBytesLimit)
    programCache := ProgramCache.new cr
    sysvars := Sysvars.default cr
    accounts := ∅ }

/-- A bundled program, when the configuration asks for it. -/
def loadIf (svm : QuasarSvm) (asked : Bool) (programId loader : Pubkey) (elf : Bytes) :
    Option QuasarSvm :=
  if asked then svm.withProgramLoader cr programId loader elf else some svm

/-- Absent where the source panics: a bundled program does not load. -/
def newWithConfig (config : QuasarSvmConfig) : Option QuasarSvm :=
  ((bare cr bundle).loadIf cr config.token splTokenProgramId cr.loaderV2Id bundle.splToken).bind
    fun svm =>
      (svm.loadIf cr config.token2022 splToken2022ProgramId cr.loaderV3Id
          bundle.splToken2022).bind fun svm =>
        svm.loadIf cr config.associatedToken splAssociatedTokenProgramId cr.loaderV2Id
          bundle.splAssociatedToken

def new : Option QuasarSvm :=
  newWithConfig cr bundle QuasarSvmConfig.default

end QuasarSvm

/-- A call of the builder. -/
inductive BuilderCall
  | withProgram (programId : Pubkey) (elf : Bytes)
  | withProgramLoader (programId loader : Pubkey) (elf : Bytes)
  | withTokenProgram
  | withToken2022Program
  | withAssociatedTokenProgram
  | withAccount (account : Account)
  | withSlot (slot : UInt64)
  | withComputeBudget (maxUnits : UInt64)
  | withAirdrop (pubkey : Pubkey) (lamports : UInt64)
  | withCreateAccount (pubkey : Pubkey) (space : Nat) (owner : Pubkey)

namespace BuilderCall

variable (cr : Crates) (bundle : Bundle)

def apply (svm : QuasarSvm) : BuilderCall → Option QuasarSvm
  | .withProgram programId elf => svm.withProgram cr programId elf
  | .withProgramLoader programId loader elf => svm.withProgramLoader cr programId loader elf
  | .withTokenProgram => svm.withTokenProgram cr bundle
  | .withToken2022Program => svm.withToken2022Program cr bundle
  | .withAssociatedTokenProgram => svm.withAssociatedTokenProgram cr bundle
  | .withAccount account => some (svm.withAccount account)
  | .withSlot slot => some (svm.withSlot cr slot)
  | .withComputeBudget maxUnits => some (svm.withComputeBudget maxUnits)
  | .withAirdrop pubkey lamports => some (svm.withAirdrop cr pubkey lamports)
  | .withCreateAccount pubkey space owner => some (svm.withCreateAccount cr pubkey space owner)

/-- The operation that the call performs on the VM. -/
def operation (svm : QuasarSvm) : BuilderCall → Operation
  | .withProgram programId elf => .addProgram programId cr.loaderV3Id elf
  | .withProgramLoader programId loader elf => .addProgram programId loader elf
  | .withTokenProgram => .addProgram splTokenProgramId cr.loaderV2Id bundle.splToken
  | .withToken2022Program => .addProgram splToken2022ProgramId cr.loaderV3Id bundle.splToken2022
  | .withAssociatedTokenProgram =>
      .addProgram splAssociatedTokenProgramId cr.loaderV2Id bundle.splAssociatedToken
  | .withAccount account => .setAccount account
  | .withSlot slot => .warpToSlot slot
  | .withComputeBudget maxUnits =>
      .setComputeBudget { svm.computeBudget with computeUnitLimit := maxUnits }
  | .withAirdrop pubkey lamports => .airdrop pubkey lamports
  | .withCreateAccount pubkey space owner => .createAccount pubkey space owner

end BuilderCall

namespace QuasarSvm

variable {cr : Crates} {rt : Runtime} {bundle : Bundle} {svm svm' : QuasarSvm}

/-- A program that is loaded in a constructor or by the builder is added. -/
theorem withProgramLoader_eq_some {programId loader : Pubkey} {elf : Bytes}
    (h : svm.withProgramLoader cr programId loader elf = some svm') :
    svm' = (svm.addProgram cr programId loader elf).1 := by
  unfold withProgramLoader at h
  split at h
  · rename_i out hadd
    cases h
    rw [hadd]
  · cases h

/-- A builder call that returns is an operation, which draws no order. -/
theorem BuilderCall.apply_eq_some {call : BuilderCall} (rt : Runtime) (order : SetOrder)
    (h : call.apply cr bundle svm = some svm') :
    svm' = (svm.operate (cr.withOrder order.iter) rt (call.operation cr bundle svm)).1 := by
  cases call with
  | withProgram programId elf => exact withProgramLoader_eq_some h
  | withProgramLoader programId loader elf => exact withProgramLoader_eq_some h
  | withTokenProgram => exact withProgramLoader_eq_some h
  | withToken2022Program => exact withProgramLoader_eq_some h
  | withAssociatedTokenProgram => exact withProgramLoader_eq_some h
  | _ =>
      cases h
      rfl

/-! ## VMs that were made -/

/-- A VM that a constructor, the builder and operations can make, whatever orders they draw. -/
inductive Made (cr : Crates) (rt : Runtime) (bundle : Bundle) : QuasarSvm → Prop
  | new (config : QuasarSvmConfig) (svm : QuasarSvm)
      (h : newWithConfig cr bundle config = some svm) : Made cr rt bundle svm
  | built (svm svm' : QuasarSvm) (call : BuilderCall) (hsvm : Made cr rt bundle svm)
      (h : call.apply cr bundle svm = some svm') : Made cr rt bundle svm'
  | operated (svm : QuasarSvm) (op : Operation) (order : SetOrder) (hsvm : Made cr rt bundle svm) :
      Made cr rt bundle (svm.operate (cr.withOrder order.iter) rt op).1

/-- What holds of a VM with the built-in programs, and what every operation preserves, holds of every
VM that was made. -/
theorem Made.preserves {P : QuasarSvm → Prop} (hbare : P (bare cr bundle))
    (hstep : ∀ svm op (order : SetOrder), P svm →
      P (svm.operate (cr.withOrder order.iter) rt op).1) (h : Made cr rt bundle svm) : P svm := by
  have hload : ∀ svm svm' asked programId loader elf, P svm →
      loadIf cr svm asked programId loader elf = some svm' → P svm' := by
    intro svm svm' asked programId loader elf hsvm hsome
    cases asked with
    | false =>
        cases hsome
        exact hsvm
    | true =>
        rw [withProgramLoader_eq_some hsome]
        exact hstep svm (.addProgram programId loader elf) SetOrder.dedup hsvm
  induction h with
  | new config svm h =>
      -- The bundled programs are loaded one after the other.
      rcases Option.bind_eq_some_iff.1 h with ⟨svm₁, htoken, h⟩
      rcases Option.bind_eq_some_iff.1 h with ⟨svm₂, htoken2022, hassociated⟩
      have h₁ := hload _ _ _ _ _ _ hbare htoken
      have h₂ := hload _ _ _ _ _ _ h₁ htoken2022
      exact hload _ _ _ _ _ _ h₂ hassociated
  | built svm svm' call _ h ih =>
      rw [BuilderCall.apply_eq_some rt SetOrder.dedup h]
      exact hstep svm _ SetOrder.dedup ih
  | operated svm op order _ ih => exact hstep svm op order ih

end QuasarSvm

/-! ## The two records of a program -/

/-- The map of loaders and ELFs has the programs of the runtime's cache, each with the loader that the
runtime's entry names. -/
def ProgramCache.Coherent (pc : ProgramCache) : Prop :=
  ∀ id, (pc.entries.lookup id).map CacheEntry.loaderKey =
    (pc.cache.entries.lookup id).map ProgramCacheEntry.accountOwner

theorem ProgramCache.Coherent.replenish {pc : ProgramCache} (h : pc.Coherent) (programId : Pubkey)
    (entry : ProgramCacheEntry) (elf : Option Bytes) :
    (pc.replenish programId entry elf).Coherent := by
  intro id
  simp only [ProgramCache.replenish, ProgramCacheForTxBatch.replenish, HashMap.lookup_insert_eq]
  by_cases hid : programId = id
  · simp [hid]
  · simpa [hid] using h id

theorem ProgramCache.coherent_new (cr : Crates) : (ProgramCache.new cr).Coherent := by
  have hempty : ProgramCache.empty.Coherent := fun id => rfl
  have hfold : ∀ (bs : List Builtin) (pc : ProgramCache), pc.Coherent →
      (bs.foldl (fun me b => me.replenish b.programId (b.programCacheEntry cr) none)
        pc).Coherent := by
    intro bs
    induction bs with
    | nil => exact fun pc h => h
    | cons b bs ih => exact fun pc h => ih _ (h.replenish _ _ _)
  exact hfold (builtins cr) _ hempty

namespace QuasarSvm

variable {cr : Crates} {rt : Runtime} {bundle : Bundle} {svm : QuasarSvm}

/-- Every operation writes both records of a program or none. -/
theorem coherent_operate (svm : QuasarSvm) (op : Operation) (h : svm.programCache.Coherent) :
    (svm.operate cr rt op).1.programCache.Coherent := by
  intro id
  rcases programCache_operate cr rt svm id op with ⟨_, hbase, hrecorded⟩
  rw [hbase, hrecorded]
  cases addedProgram cr id op with
  | none => simpa using h id
  | some added => rfl

theorem Made.coherent (h : Made cr rt bundle svm) : svm.programCache.Coherent :=
  h.preserves (P := fun svm => svm.programCache.Coherent) (ProgramCache.coherent_new cr)
    fun svm op _ => coherent_operate svm op

/-! ## The account of a program -/

variable {id : Pubkey} {entry : ProgramCacheEntry} {ixs : List Instruction}
  {accounts : List Account}

/-- The account stands for a program of the loader: it is executable, and the loader owns it as far as
the cache has an account for it. -/
def IsProgramOf (cr : Crates) (loader : Pubkey) (a : SolanaAccount) : Prop :=
  a.executable = true ∧ (a.owner = loader ↔ KnownLoader cr loader)

/-- For a program of the runtime's cache the fallback accounts begin with its own account; behind it
is at most its programdata account. -/
theorem maybeCreateProgramAccounts_of_coherent (cr : Crates) (h : svm.programCache.Coherent)
    (hentry : svm.programCache.cache.entries.lookup id = some entry) :
    ∃ a rest, svm.programCache.maybeCreateProgramAccounts cr id = (id, a) :: rest ∧
      IsProgramOf cr entry.accountOwner a ∧ ∀ p ∈ rest, p.1 = programdataAddress cr id := by
  have hrecorded := h id
  rw [hentry, Option.map_some] at hrecorded
  rcases Option.map_eq_some_iff.1 hrecorded with ⟨recorded, hlookup, hloader⟩
  simp only [ProgramCache.maybeCreateProgramAccounts, hlookup, hloader]
  unfold IsProgramOf KnownLoader
  by_cases hnative : entry.accountOwner = cr.nativeLoaderId
  · exact ⟨_, [], if_pos hnative, ⟨rfl, by simp [hnative]⟩, by simp⟩
  · rw [if_neg hnative]
    by_cases hv2 : entry.accountOwner = cr.loaderV2Id
    · exact ⟨_, [], if_pos hv2, ⟨rfl, by simp [hv2]⟩, by simp⟩
    · rw [if_neg hv2]
      by_cases hv3 : entry.accountOwner = cr.loaderV3Id
      · refine ⟨_, _, if_pos hv3, ⟨rfl, by simp [hv3]⟩, ?_⟩
        intro p hp
        rw [List.mem_singleton.1 hp]
        rfl
      · -- A stub has the default owner.
        refine ⟨_, [], if_neg hv3, ⟨rfl, ?_⟩, by simp⟩
        simp [hnative, hv2, hv3, eq_comm, SolanaAccount.default]

/-- The fallback of a missing program is its own account, unless its id is the programdata address of
a program that is run. -/
theorem lastOf_fallbackPairs_of_coherent (horder : IsSetOrder cr.hashSetIter)
    (h : svm.programCache.Coherent)
    (hentry : svm.programCache.cache.entries.lookup id = some entry)
    (hrun : ∃ ix ∈ ixs, ix.programId = id) (hnot : ¬ Supplied svm accounts id)
    (hdata : ∀ ix ∈ ixs, programdataAddress cr ix.programId ≠ id) :
    ∃ a, HashMap.lastOf id (fallbackPairs cr svm ixs accounts) = some a ∧
      IsProgramOf cr entry.accountOwner a := by
  rcases maybeCreateProgramAccounts_of_coherent cr h hentry with ⟨a, rest, hlist, ha, hrest⟩
  have hmissing : id ∈ missingPrograms cr svm ixs accounts :=
    (mem_missingPrograms_iff horder).2 ⟨hrun, hnot⟩
  have hgroup : svm.programFallbacks cr id = (id, a) :: rest := by
    simp [programFallbacks, hlist]
  -- The programdata account behind the program's own one has another key.
  have howndata : programdataAddress cr id ≠ id := by
    rcases hrun with ⟨ix, hix, rfl⟩
    exact hdata ix hix
  have hown : HashMap.lastOf id (svm.programFallbacks cr id) = some a := by
    have hnone : HashMap.lastOf id rest = none := by
      refine HashMap.lastOf_eq_none_iff.2 ?_
      intro hmem
      rcases List.mem_map.1 hmem with ⟨p, hp, hkey⟩
      exact howndata ((hrest p hp).symm.trans hkey)
    simp [hgroup, HashMap.lastOf_cons, hnone]
  have hmem : id ∈ (fallbackPairs cr svm ixs accounts).map Prod.fst := by
    refine List.mem_map.2 ⟨(id, a), List.mem_flatMap.2 ⟨id, hmissing, ?_⟩, rfl⟩
    simp [hgroup]
  rcases HashMap.exists_lastOf hmem with ⟨b, hb, _⟩
  rcases HashMap.exists_last_group hb with ⟨pre, pid, post, hsplit, hlast, _⟩
  -- Only the program's own group has its id.
  have hpid : pid = id := by
    have hkey : id ∈ (svm.programFallbacks cr pid).map Prod.fst := by
      by_contra hnotmem
      cases (HashMap.lastOf_eq_none_iff.2 hnotmem).symm.trans hlast
    rcases List.mem_map.1 hkey with ⟨p, hp, hpid⟩
    have hpidmem : pid ∈ missingPrograms cr svm ixs accounts := by simp [hsplit]
    rcases ((mem_missingPrograms_iff horder).1 hpidmem).1 with ⟨ix, hix, rfl⟩
    rcases mem_programFallbacks hp with hcase | hcase
    · exact hcase.symm.trans hpid
    · exact absurd (hcase.symm.trans hpid) (hdata ix hix)
  subst hpid
  cases hown.symm.trans hlast
  exact ⟨a, hb, ha⟩

/-- In every VM that was made, however it was used since, a program that is built in or was added is
found by a transaction that runs it or names it: as an executable account, owned by the loader of its
base entry whenever that is a loader with fallback accounts. -/
theorem Made.findAccount_program (horder : IsSetOrder cr.hashSetIter)
    (h : Made cr rt bundle svm)
    (hentry : svm.programCache.cache.entries.lookup id = some entry)
    (hkey : id ∈ (cr.messageNew ixs).accountKeys) (hnot : ¬ Supplied svm accounts id)
    (hinstructions : id ≠ cr.instructionsSysvarId) (hsysvar : ∀ s, id ≠ cr.sysvarId s)
    (hdata : ∀ ix ∈ ixs, programdataAddress cr ix.programId ≠ id) :
    ∃ a, (svm.initialContext cr ixs accounts).findAccount id = some a ∧
      IsProgramOf cr entry.accountOwner a := by
  rw [findAccount_of_mem_keys hkey, resolved_of_not_supplied hnot,
    lookup_fallbacks_of_ne hinstructions]
  by_cases hrun : ∃ ix ∈ ixs, ix.programId = id
  · rcases lastOf_fallbackPairs_of_coherent horder h.coherent hentry hrun hnot hdata with
      ⟨a, hlast, ha⟩
    exact ⟨a, by rw [hlast]; rfl, ha⟩
  · -- A program that is only named is asked for late, after the sysvars.
    have hnone : HashMap.lastOf id (fallbackPairs cr svm ixs accounts) = none := by
      refine lastOf_fallbackPairs_eq_none horder ?_
      exact fun ix hix => ⟨fun heq => hrun ⟨ix, hix, heq⟩, hdata ix hix⟩
    have hnosysvar : svm.sysvars.maybeCreateSysvarAccount cr id = none := by
      rw [Sysvars.maybeCreateSysvarAccount, Option.map_eq_none_iff, List.find?_eq_none]
      intro s _
      simpa using hsysvar s
    rcases maybeCreateProgramAccounts_of_coherent cr h.coherent hentry with
      ⟨a, rest, hlist, ha, _⟩
    refine ⟨a, ?_, ha⟩
    rw [hnone, hnosysvar, hlist]
    simp [HashMap.firstOf_cons]

def sampleBundle : Bundle :=
  { splToken := [1]
    splToken2022 := [2]
    splAssociatedToken := [3]
    computeBudget :=
      { computeUnitLimit := 1400000
        maxInstructionStackDepth := 5
        maxInstructionTraceLength := 64 } }

/-- The token program of a new VM, after the slot was set. -/
theorem Made.findAccount_program_sample :
    ∃ svm a, QuasarSvm.new Reference.crates sampleBundle = some svm ∧
      ((svm.operate Reference.crates Reference.idleRuntime (.warpToSlot 7)).1.initialContext
        Reference.crates [Reference.instructionOn splTokenProgramId []] []).findAccount
          splTokenProgramId = some a ∧
      IsProgramOf Reference.crates Reference.crates.loaderV2Id a := by
  have hnew : QuasarSvm.new Reference.crates sampleBundle = some _ := rfl
  have hmade : Made Reference.crates Reference.idleRuntime sampleBundle _ :=
    .operated _ (.warpToSlot 7) SetOrder.dedup (.new _ _ hnew)
  have horder : IsSetOrder Reference.crates.hashSetIter := fun keys =>
    ⟨List.nodup_dedup keys, fun k => List.mem_dedup⟩
  have hnot : ∀ k, ¬ Supplied
      ((Option.get (QuasarSvm.new Reference.crates sampleBundle) rfl).operate Reference.crates
        Reference.idleRuntime (.warpToSlot 7)).1 [] k := by
    rintro k (hstored | ⟨a, ha, _⟩)
    · cases hstored
    · cases ha
  have hkey : splTokenProgramId ∈ (Reference.crates.messageNew
      [Reference.instructionOn splTokenProgramId []]).accountKeys := by decide
  have hsysvar : ∀ s, splTokenProgramId ≠ Reference.crates.sysvarId s := by
    intro s
    cases s with
    | _ => decide
  rcases Made.findAccount_program horder hmade rfl hkey (hnot _) (by decide) hsysvar
    (by decide) with ⟨a, hfind, ha⟩
  exact ⟨_, a, hnew, hfind, ha⟩

end QuasarSvm
end Svm
end Quasar
