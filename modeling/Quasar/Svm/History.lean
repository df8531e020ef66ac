import Quasar.Lib.Machine
import Quasar.Svm.Reference
import Quasar.Svm.Resolution

/-!
# History — a VM over its whole life

The VM is a machine whose inputs are the operations of its interface.  Every execution starts with a
fresh logger, and the maps of the program cache are only ever looked up, never listed.  So two VMs
that differ in their loggers and in the order of their programs only behave alike for ever.
-/

namespace Quasar
namespace Svm

open Lib

/-! ## Operations -/

inductive Operation
  | setAccount (account : Account)
  | getAccount (pubkey : Pubkey)
  | addProgram (programId loaderKey : Pubkey) (elf : Bytes)
  | loadProgram (programId : Pubkey)
  | airdrop (pubkey : Pubkey) (lamports : UInt64)
  | createAccount (pubkey : Pubkey) (space : Nat) (owner : Pubkey)
  | setTokenBalance (address : Pubkey) (amount : UInt64)
  | setMintSupply (address : Pubkey) (supply : UInt64)
  | warpToTimestamp (timestamp : Int64)
  | warpToSlot (slot : UInt64)
  | setSysvars (sysvars : Sysvars)
  | setComputeBudget (computeBudget : ComputeBudget)
  | execute (instructions : List Instruction) (accounts : List Account) (commit : Bool)

/-- What an operation tells its caller; an error is a panic. -/
inductive Reply
  | done (r : Except String Unit)
  | account (a : Option Account)
  | program (e : Option ProgramCacheEntry)
  | executed (r : Except String ExecutionResult)

namespace QuasarSvm

variable (cr : Crates) (rt : Runtime)

def operate (svm : QuasarSvm) : Operation → QuasarSvm × Reply
  | .setAccount account => (svm.setAccount account, .done (.ok ()))
  | .getAccount pubkey => (svm, .account (svm.getAccount pubkey))
  | .addProgram programId loaderKey elf =>
      let out := svm.addProgram cr programId loaderKey elf
      (out.1, .done out.2)
  | .loadProgram programId => (svm, .program (svm.programCache.loadProgram programId))
  | .airdrop pubkey lamports => (svm.airdrop cr pubkey lamports, .done (.ok ()))
  | .createAccount pubkey space owner => (svm.createAccount cr pubkey space owner, .done (.ok ()))
  | .setTokenBalance address amount =>
      let out := svm.setTokenBalance cr address amount
      (out.1, .done out.2)
  | .setMintSupply address supply =>
      let out := svm.setMintSupply cr address supply
      (out.1, .done out.2)
  | .warpToTimestamp timestamp => (svm.warpToTimestamp timestamp, .done (.ok ()))
  | .warpToSlot slot => ({ svm with sysvars := svm.sysvars.warpToSlot cr slot }, .done (.ok ()))
  | .setSysvars sysvars => ({ svm with sysvars := sysvars }, .done (.ok ()))
  | .setComputeBudget computeBudget =>
      ({ svm with computeBudget := computeBudget }, .done (.ok ()))
  | .execute instructions accounts commit =>
      let out := svm.executeInner cr rt instructions accounts commit
      (out.1, .executed out.2)

/-- The VM as a machine. -/
def machine : Machine QuasarSvm Operation Reply :=
  { step := fun svm op => svm.operate cr rt op }

/-! ## VMs that find the same programs -/

/-- Two caches with the same entries under every id, in any order. -/
def SameCaches (c c' : ProgramCacheForTxBatch) : Prop :=
  ∀ id, c'.modifiedEntries.lookup id = c.modifiedEntries.lookup id ∧
    c'.entries.lookup id = c.entries.lookup id

/-- Two program caches with the same entries under every id, in any order. -/
def SameProgramCaches (pc pc' : ProgramCache) : Prop :=
  SameCaches pc.cache pc'.cache ∧ ∀ id, pc'.entries.lookup id = pc.entries.lookup id

/-- Two VMs that differ in their loggers and in the order of their programs only. -/
def SamePrograms (svm svm' : QuasarSvm) : Prop :=
  ∃ logger programCache, SameProgramCaches svm.programCache programCache ∧
    svm' = { svm with logger := logger, programCache := programCache }

/-- Two contexts that differ in the order of their programs only. -/
def SameContexts (ic ic' : InvokeContext) : Prop :=
  ∃ cache, SameCaches ic.programCache cache ∧ ic' = { ic with programCache := cache }

section Same

variable {cr : Crates} {rt : Runtime} {svm svm' : QuasarSvm}

/-! ### Caches -/

theorem SameCaches.find_eq {c c' : ProgramCacheForTxBatch} (h : SameCaches c c') :
    c'.find = c.find := by
  funext id
  simp [ProgramCacheForTxBatch.find, h id]

theorem SameCaches.store {c c' : ProgramCacheForTxBatch} (h : SameCaches c c')
    (stored : List (Pubkey × ProgramCacheEntry)) :
    SameCaches (c.storeModifiedEntries stored) (c'.storeModifiedEntries stored) := by
  intro id
  simp [ProgramCacheForTxBatch.storeModifiedEntries, HashMap.lookup_insertAll, h id]

theorem SameProgramCaches.replenish {pc pc' : ProgramCache} (h : SameProgramCaches pc pc')
    (programId : Pubkey) (entry : ProgramCacheEntry) (elf : Option Bytes) :
    SameProgramCaches (pc.replenish programId entry elf) (pc'.replenish programId entry elf) := by
  refine ⟨fun id => ⟨(h.1 id).1, ?_⟩, fun id => ?_⟩
  · have hbase := (h.1 id).2
    simp only [ProgramCache.replenish, ProgramCacheForTxBatch.replenish, HashMap.lookup_insert_eq,
      hbase]
  · have hrecorded := h.2 id
    simp only [ProgramCache.replenish, HashMap.lookup_insert_eq, hrecorded]

theorem maybeCreateProgramAccounts_eq {pc pc' : ProgramCache}
    (h : ∀ id, pc'.entries.lookup id = pc.entries.lookup id) :
    pc'.maybeCreateProgramAccounts cr = pc.maybeCreateProgramAccounts cr := by
  funext id
  simp only [ProgramCache.maybeCreateProgramAccounts, h id]

/-! ### Executions -/

/-- The runtime cannot tell the contexts apart, and what it leaves behind finds the same again. -/
theorem SameContexts.step {ic ic' : InvokeContext} (h : SameContexts ic ic') :
    ic'.input = ic.input ∧ ∀ o, SameContexts (ic.apply o) (ic'.apply o) := by
  rcases h with ⟨cache, hcache, rfl⟩
  refine ⟨?_, ?_⟩
  · simp [InvokeContext.input, hcache.find_eq]
  · intro o
    exact ⟨cache.storeModifiedEntries o.storedPrograms, hcache.store o.storedPrograms, rfl⟩

theorem runInstructions_sameContexts (ixs : List CompiledInstruction) {ic ic' : InvokeContext}
    (h : SameContexts ic ic') (units : UInt64) :
    SameContexts (runInstructions rt ixs ic units).context
        (runInstructions rt ixs ic' units).context ∧
      (runInstructions rt ixs ic' units).computeUnitsConsumed =
        (runInstructions rt ixs ic units).computeUnitsConsumed ∧
      (runInstructions rt ixs ic' units).rawResult =
        (runInstructions rt ixs ic units).rawResult := by
  induction ixs generalizing ic ic' units with
  | nil => exact ⟨h, rfl, rfl⟩
  | cons ix rest ih =>
      rcases h.step with ⟨hinput, happly⟩
      unfold runInstructions
      simp only [hinput]
      cases hresult : (rt.processInstruction ic.input).result with
      | error e => exact ⟨happly _, rfl, rfl⟩
      | ok u => exact ih (happly _) _

/-- A call resolves every key alike in both VMs. -/
theorem SamePrograms.initialContext_eq (cr : Crates) (h : SamePrograms svm svm')
    (ixs : List Instruction) (accounts : List Account) :
    svm'.initialContext cr ixs accounts = svm.initialContext cr ixs accounts := by
  rcases h with ⟨logger, pc, ⟨_, hrecorded⟩, hsvm'⟩
  have hcreate : svm'.programCache.maybeCreateProgramAccounts cr =
      svm.programCache.maybeCreateProgramAccounts cr := by
    rw [hsvm']
    exact maybeCreateProgramAccounts_eq hrecorded
  have hprogram : svm'.programFallbacks cr = svm.programFallbacks cr := by
    funext pid
    simp only [programFallbacks, hcreate]
  have hbuild : svm'.buildFallbacks cr = svm.buildFallbacks cr := by
    funext ixs accounts
    simp only [buildFallbacks, hprogram]
  have hmerged : svm'.mergedAccounts accounts = svm.mergedAccounts accounts := by
    rw [hsvm']
    rfl
  have hsysvars : svm'.sysvars = svm.sysvars := by rw [hsvm']
  have hresolved : ∀ k, resolved cr svm' ixs accounts k = resolved cr svm ixs accounts k := by
    intro k
    simp only [resolved, resolveAccount, fallbacks, hmerged, hbuild, hsysvars, hcreate]
  refine initialContext_congr ?_ hsysvars (by rw [hsvm'])
  simp only [accounts_initialContext, hresolved, hmerged]

theorem SamePrograms.run (cr : Crates) (rt : Runtime) (h : SamePrograms svm svm')
    (ixs : List Instruction) (accounts : List Account) :
    (svm.run cr rt ixs accounts = none ∧ svm'.run cr rt ixs accounts = none) ∨
      ∃ o o', svm.run cr rt ixs accounts = some o ∧ svm'.run cr rt ixs accounts = some o' ∧
        SameContexts o.context o'.context ∧
        o'.computeUnitsConsumed = o.computeUnitsConsumed ∧ o'.rawResult = o.rawResult := by
  have hcontext := h.initialContext_eq cr ixs accounts
  rcases h with ⟨logger, pc, hpc, hsvm'⟩
  have hmessage : svm'.message cr ixs accounts = svm.message cr ixs accounts := rfl
  have hsame : rt.prepareTopLevelInstructions (svm'.message cr ixs accounts)
      (svm'.initialContext cr ixs accounts) =
        rt.prepareTopLevelInstructions (svm.message cr ixs accounts)
          (svm.initialContext cr ixs accounts) := by
    rw [hmessage, hcontext]
  cases hprepare : rt.prepareTopLevelInstructions (svm.message cr ixs accounts)
      (svm.initialContext cr ixs accounts) with
  | error e => exact Or.inl ⟨run_eq_none hprepare, run_eq_none (hsame.trans hprepare)⟩
  | ok trace =>
      refine Or.inr ⟨_, _, run_of_prepare hprepare, run_of_prepare (hsame.trans hprepare), ?_⟩
      have hstart : SameContexts (svm.startContext cr ixs accounts trace)
          (svm'.startContext cr ixs accounts trace) := by
        refine ⟨pc.cache, hpc.1, ?_⟩
        rw [startContext, hcontext, hsvm']
        rfl
      exact runInstructions_sameContexts _ hstart 0

theorem SamePrograms.executeInner (cr : Crates) (rt : Runtime) (h : SamePrograms svm svm')
    (ixs : List Instruction) (accounts : List Account) (commit : Bool) :
    (svm.executeInner cr rt ixs accounts commit).2 =
        (svm'.executeInner cr rt ixs accounts commit).2 ∧
      SamePrograms (svm.executeInner cr rt ixs accounts commit).1
        (svm'.executeInner cr rt ixs accounts commit).1 := by
  rcases h.run cr rt ixs accounts with ⟨hrun, hrun'⟩ |
    ⟨o, o', hrun, hrun', hcontext, hunits, hresult⟩
  · rw [executeInner_of_none hrun, executeInner_of_none hrun']
    rcases h with ⟨logger, pc, hpc, rfl⟩
    exact ⟨rfl, _, pc, hpc, rfl⟩
  · rw [executeInner_of_some hrun, executeInner_of_some hrun']
    rcases h with ⟨logger, pc, hpc, rfl⟩
    rcases hcontext with ⟨cache, hcache, hcontext⟩
    rcases o with ⟨ic, units, result⟩
    rcases o' with ⟨ic', units', result'⟩
    cases hcontext
    cases hunits
    cases hresult
    -- The map of loaders and ELFs is left alone by an execution.
    have hafter : SameProgramCaches { svm.programCache with cache := ic.programCache }
        { pc with cache := cache } := ⟨hcache, hpc.2⟩
    cases result with
    | error e => exact ⟨rfl, _, _, hafter, rfl⟩
    | ok u =>
        cases commit with
        | false => exact ⟨rfl, _, _, hafter, rfl⟩
        | true => exact ⟨rfl, _, _, hafter, rfl⟩

/-! ### Operations on them -/

theorem SamePrograms.addProgram (cr : Crates) (h : SamePrograms svm svm')
    (programId loaderKey : Pubkey) (elf : Bytes) :
    (svm.addProgram cr programId loaderKey elf).2 = (svm'.addProgram cr programId loaderKey elf).2 ∧
      SamePrograms (svm.addProgram cr programId loaderKey elf).1
        (svm'.addProgram cr programId loaderKey elf).1 := by
  rcases h with ⟨logger, pc, hpc, rfl⟩
  unfold QuasarSvm.addProgram ProgramCache.addProgram
  cases cr.programCacheEntryNew loaderKey elf with
  | none => exact ⟨rfl, logger, pc, hpc, rfl⟩
  | some entry => exact ⟨rfl, logger, _, hpc.replenish programId entry (some elf), rfl⟩

theorem SamePrograms.setTokenBalance (cr : Crates) (h : SamePrograms svm svm') (address : Pubkey)
    (amount : UInt64) :
    (svm.setTokenBalance cr address amount).2 = (svm'.setTokenBalance cr address amount).2 ∧
      SamePrograms (svm.setTokenBalance cr address amount).1
        (svm'.setTokenBalance cr address amount).1 := by
  rcases h with ⟨logger, pc, hpc, rfl⟩
  unfold QuasarSvm.setTokenBalance
  cases svm.accounts.lookup address with
  | none => exact ⟨rfl, logger, pc, hpc, rfl⟩
  | some acct =>
      dsimp only
      cases cr.unpackTokenAccount acct.data with
      | none => exact ⟨rfl, logger, pc, hpc, rfl⟩
      | some token => exact ⟨rfl, logger, pc, hpc, rfl⟩

theorem SamePrograms.setMintSupply (cr : Crates) (h : SamePrograms svm svm') (address : Pubkey)
    (supply : UInt64) :
    (svm.setMintSupply cr address supply).2 = (svm'.setMintSupply cr address supply).2 ∧
      SamePrograms (svm.setMintSupply cr address supply).1
        (svm'.setMintSupply cr address supply).1 := by
  rcases h with ⟨logger, pc, hpc, rfl⟩
  unfold QuasarSvm.setMintSupply
  cases svm.accounts.lookup address with
  | none => exact ⟨rfl, logger, pc, hpc, rfl⟩
  | some acct =>
      dsimp only
      cases cr.unpackMint acct.data with
      | none => exact ⟨rfl, logger, pc, hpc, rfl⟩
      | some mint => exact ⟨rfl, logger, pc, hpc, rfl⟩

/-- Every operation replies to both VMs alike and leaves them finding the same programs. -/
theorem SamePrograms.operate (h : SamePrograms svm svm') (op : Operation) :
    (svm.operate cr rt op).2 = (svm'.operate cr rt op).2 ∧
      SamePrograms (svm.operate cr rt op).1 (svm'.operate cr rt op).1 := by
  have hcopy := h
  rcases hcopy with ⟨logger, pc, hpc, rfl⟩
  cases op with
  | loadProgram programId =>
      refine ⟨?_, logger, pc, hpc, rfl⟩
      have hfind : pc.cache.find programId = svm.programCache.cache.find programId :=
        congrFun hpc.1.find_eq programId
      exact congrArg Reply.program hfind.symm
  | addProgram programId loaderKey elf =>
      rcases h.addProgram cr programId loaderKey elf with ⟨hreply, hnext⟩
      exact ⟨congrArg Reply.done hreply, hnext⟩
  | setTokenBalance address amount =>
      rcases h.setTokenBalance cr address amount with ⟨hreply, hnext⟩
      exact ⟨congrArg Reply.done hreply, hnext⟩
  | setMintSupply address supply =>
      rcases h.setMintSupply cr address supply with ⟨hreply, hnext⟩
      exact ⟨congrArg Reply.done hreply, hnext⟩
  | execute ixs accounts commit =>
      rcases h.executeInner cr rt ixs accounts commit with ⟨hreply, hnext⟩
      exact ⟨congrArg Reply.executed hreply, hnext⟩
  -- The others neither read the program cache nor the logger.
  | _ => exact ⟨rfl, logger, pc, hpc, rfl⟩

/-- Finding the same programs is a bisimulation. -/
theorem samePrograms_bisimulation : (machine cr rt).Bisimulation SamePrograms :=
  { reply := fun _ _ op h => (h.operate op).1
    next := fun _ _ op h => (h.operate op).2 }

end Same

variable {cr rt}

/-! ## What the runtime stores in the program cache -/

/-- The entries that the runtime stores while it processes the remaining instructions. -/
def storedPrograms (rt : Runtime) :
    List CompiledInstruction → InvokeContext → List (Pubkey × ProgramCacheEntry)
  | [], _ => []
  | _ :: rest, ic =>
      let o := rt.processInstruction ic.input
      match o.result with
      | .ok () => o.storedPrograms ++ storedPrograms rt rest (ic.apply o)
      | .error _ => o.storedPrograms

/-- The entries that the runtime stores during a call. -/
def callStoredPrograms (cr : Crates) (rt : Runtime) (svm : QuasarSvm) (ixs : List Instruction)
    (accounts : List Account) : List (Pubkey × ProgramCacheEntry) :=
  match rt.prepareTopLevelInstructions (svm.message cr ixs accounts)
      (svm.initialContext cr ixs accounts) with
  | .ok trace =>
      storedPrograms rt (svm.message cr ixs accounts).message.instructions
        (svm.startContext cr ixs accounts trace)
  | .error _ => []

/-- Each program's last stored entry is the one that is its modified entry already. -/
def StoresNothingNew (cr : Crates) (rt : Runtime) (svm : QuasarSvm) (ixs : List Instruction)
    (accounts : List Account) : Prop :=
  ∀ id e, HashMap.lastOf id (callStoredPrograms cr rt svm ixs accounts) = some e →
    svm.programCache.cache.modifiedEntries.lookup id = some e

/-- A run leaves behind the cache it started with and what the runtime stored on the way. -/
theorem programCache_runInstructions (rt : Runtime) (ixs : List CompiledInstruction)
    (ic : InvokeContext) (units : UInt64) :
    (runInstructions rt ixs ic units).context.programCache =
      ic.programCache.storeModifiedEntries (storedPrograms rt ixs ic) := by
  induction ixs generalizing ic units with
  | nil => rfl
  | cons ix rest ih =>
      cases hresult : (rt.processInstruction ic.input).result with
      | error e =>
          -- A failing instruction stores its entries as well.
          simp only [runInstructions_of_error hresult, storedPrograms, hresult]
          rfl
      | ok u =>
          simp only [runInstructions_of_ok hresult, storedPrograms, hresult, ih]
          simp [ProgramCacheForTxBatch.storeModifiedEntries, InvokeContext.apply,
            HashMap.insertAll, List.foldl_append]

/-- After a call the cache is the one before, with what the runtime stored. -/
theorem programCache_executeInner (svm : QuasarSvm) (ixs : List Instruction)
    (accounts : List Account) (commit : Bool) :
    (svm.executeInner cr rt ixs accounts commit).1.programCache =
      { svm.programCache with
        cache := svm.programCache.cache.storeModifiedEntries
          (callStoredPrograms cr rt svm ixs accounts) } := by
  cases hprepare : rt.prepareTopLevelInstructions (svm.message cr ixs accounts)
      (svm.initialContext cr ixs accounts) with
  | error e => simp [executeInner_of_none (run_eq_none hprepare), callStoredPrograms, hprepare]
  | ok trace =>
      rw [executeInner_of_some (run_of_prepare hprepare)]
      have hstored := programCache_runInstructions rt
        (svm.message cr ixs accounts).message.instructions
        (svm.startContext cr ixs accounts trace) 0
      have hcall : callStoredPrograms cr rt svm ixs accounts =
          storedPrograms rt (svm.message cr ixs accounts).message.instructions
            (svm.startContext cr ixs accounts trace) := by
        simp [callStoredPrograms, hprepare]
      have hafter : ∀ o : MessageOutcome, (svm.settle cr accounts commit o).1.programCache =
          { svm.programCache with cache := o.context.programCache } := by
        intro o
        cases hresult : o.rawResult with
        | error e =>
            simp only [settle, hresult]
            rfl
        | ok u =>
            simp only [settle, hresult]
            cases commit with
            | false => rfl
            | true => rfl
      rw [hafter, hstored, hcall]
      rfl

/-! ## Calls that commit nothing -/

/-- The call is a simulation, or it ends in an error. -/
def CommitsNothing (cr : Crates) (rt : Runtime) (svm : QuasarSvm) (ixs : List Instruction)
    (accounts : List Account) (commit : Bool) : Prop :=
  commit = false ∨
    ∃ r e, (svm.executeInner cr rt ixs accounts commit).2 = .ok r ∧ r.rawResult = .error e

/-- Such a call changes the logger and the runtime's part of the program cache only. -/
theorem executeInner_of_commitsNothing {svm : QuasarSvm} {ixs : List Instruction}
    {accounts : List Account} {commit : Bool} (h : CommitsNothing cr rt svm ixs accounts commit) :
    (svm.executeInner cr rt ixs accounts commit).1 =
      { svm with
        logger := (svm.executeInner cr rt ixs accounts commit).1.logger
        programCache := { svm.programCache with
          cache := svm.programCache.cache.storeModifiedEntries
            (callStoredPrograms cr rt svm ixs accounts) } } := by
  rw [← programCache_executeInner svm ixs accounts commit]
  -- The three outcomes of a call; the third commits only what the hypothesis rules out.
  have hcall := executeInner_execution cr rt svm ixs accounts commit
  unfold CommitsNothing at h
  revert h hcall
  generalize svm.executeInner cr rt ixs accounts commit = out
  intro h hcall
  cases hcall with
  | panicked hrun => rfl
  | failed o e hrun hresult => rfl
  | succeeded o hrun hresult =>
      rcases h with rfl | ⟨r, e, hr, he⟩
      · rfl
      · -- The reported result would be `Ok` and an error at once.
        cases hr
        cases hresult.symm.trans he

/-- Storing nothing new leaves the VM finding the same programs. -/
theorem samePrograms_of_storesNothingNew {svm : QuasarSvm} {ixs : List Instruction}
    {accounts : List Account} {commit : Bool} (h : CommitsNothing cr rt svm ixs accounts commit)
    (hstores : StoresNothingNew cr rt svm ixs accounts) :
    SamePrograms (svm.executeInner cr rt ixs accounts commit).1 svm := by
  rw [executeInner_of_commitsNothing h]
  refine ⟨svm.logger, svm.programCache, ⟨fun id => ⟨?_, rfl⟩, fun id => rfl⟩, rfl⟩
  simp only [ProgramCacheForTxBatch.storeModifiedEntries, HashMap.lookup_insertAll]
  cases hlast : HashMap.lastOf id (callStoredPrograms cr rt svm ixs accounts) with
  | none => rfl
  | some e => exact hstores id e hlast

/-- The program that the VM finds under an id after such a call. -/
theorem find_after {svm : QuasarSvm} {ixs : List Instruction} {accounts : List Account}
    (commit : Bool) {id : Pubkey} {e : ProgramCacheEntry}
    (h : HashMap.lastOf id (callStoredPrograms cr rt svm ixs accounts) = some e) :
    (svm.executeInner cr rt ixs accounts commit).1.programCache.cache.modifiedEntries.lookup id =
      some e := by
  rw [programCache_executeInner]
  simp [ProgramCacheForTxBatch.storeModifiedEntries, HashMap.lookup_insertAll, h]

/-! ## Later histories -/

/-- The loader can build two different programs. -/
def Distinguishes (cr : Crates) : Prop :=
  ∃ loader elf₁ elf₂ e₁ e₂, cr.programCacheEntryNew loader elf₁ = some e₁ ∧
    cr.programCacheEntryNew loader elf₂ = some e₂ ∧ e₁ ≠ e₂

/-- The VM after the call replies to every later history as the VM before it does. -/
def Forgotten (cr : Crates) (rt : Runtime) (svm : QuasarSvm) (ixs : List Instruction)
    (accounts : List Account) (commit : Bool) : Prop :=
  ∀ ops, (machine cr rt).replies (svm.executeInner cr rt ixs accounts commit).1 ops =
    (machine cr rt).replies svm ops

/-- VMs that reply alike find the same program under every id. -/
theorem loadProgram_of_replies {svm svm' : QuasarSvm} {id : Pubkey}
    (h : (machine cr rt).replies svm' [.loadProgram id] =
      (machine cr rt).replies svm [.loadProgram id]) :
    svm'.programCache.loadProgram id = svm.programCache.loadProgram id := by
  have hreply := (List.cons.inj h).1
  exact Reply.program.inj hreply

/-- A program that is added is found, unless a modified entry stands in front of it. -/
theorem loadProgram_addProgram {svm : QuasarSvm} {id loader : Pubkey} {elf : Bytes}
    {entry : ProgramCacheEntry} (h : cr.programCacheEntryNew loader elf = some entry) :
    (svm.addProgram cr id loader elf).1.programCache.loadProgram id =
      (svm.programCache.cache.modifiedEntries.lookup id).or (some entry) := by
  simp [addProgram, ProgramCache.addProgram, h, ProgramCache.replenish, ProgramCache.loadProgram,
    ProgramCacheForTxBatch.replenish, ProgramCacheForTxBatch.find]

/-- A program that is added after the call is found in both lives. -/
theorem loadProgram_addProgram_of_forgotten {svm : QuasarSvm} {ixs : List Instruction}
    {accounts : List Account} {commit : Bool} (h : Forgotten cr rt svm ixs accounts commit)
    (id loader : Pubkey) (elf : Bytes) :
    (((svm.executeInner cr rt ixs accounts commit).1).addProgram cr id loader
        elf).1.programCache.loadProgram id =
      (svm.addProgram cr id loader elf).1.programCache.loadProgram id := by
  have hops := h [.addProgram id loader elf, .loadProgram id]
  have hload : (machine cr rt).replies _ [.loadProgram id] =
      (machine cr rt).replies _ [.loadProgram id] := (List.cons.inj hops).2
  exact loadProgram_of_replies hload

/-- A forgotten call has stored nothing new: otherwise the stored entry stands in front of one of
two programs that are added later. -/
theorem storesNothingNew_of_forgotten (hdist : Distinguishes cr) {svm : QuasarSvm}
    {ixs : List Instruction} {accounts : List Account} {commit : Bool}
    (h : Forgotten cr rt svm ixs accounts commit) : StoresNothingNew cr rt svm ixs accounts := by
  intro id e hlast
  -- After the call the stored entry is found, whichever program is added.
  have hfound := find_after commit hlast
  rcases hdist with ⟨loader, elf₁, elf₂, e₁, e₂, h₁, h₂, hne⟩
  have hadd : ∀ elf entry, cr.programCacheEntryNew loader elf = some entry →
      some e = (svm.programCache.cache.modifiedEntries.lookup id).or (some entry) := by
    intro elf entry hentry
    have hload := loadProgram_addProgram_of_forgotten h id loader elf
    rw [loadProgram_addProgram hentry, loadProgram_addProgram hentry, hfound] at hload
    exact hload
  cases hbefore : svm.programCache.cache.modifiedEntries.lookup id with
  | some e' => simpa [hbefore] using (hadd elf₁ e₁ h₁).symm
  | none =>
      -- The VM before the call finds the program that was added, and there are two of them.
      have heq₁ : e = e₁ := by simpa [hbefore] using hadd elf₁ e₁ h₁
      have heq₂ : e = e₂ := by simpa [hbefore] using hadd elf₂ e₂ h₂
      exact absurd (heq₁.symm.trans heq₂) hne

/-- A simulated or failed call is forgotten exactly when the runtime stored nothing new in the
program cache. -/
theorem forgotten_iff (hdist : Distinguishes cr) (svm : QuasarSvm) (ixs : List Instruction)
    (accounts : List Account) (commit : Bool) (h : CommitsNothing cr rt svm ixs accounts commit) :
    Forgotten cr rt svm ixs accounts commit ↔ StoresNothingNew cr rt svm ixs accounts := by
  constructor
  · intro hforgotten
    exact storesNothingNew_of_forgotten hdist hforgotten
  · intro hstores ops
    exact samePrograms_bisimulation.replies_eq (samePrograms_of_storesNothingNew h hstores) ops

/-! ### A simulated close -/

/-- A runtime with one program: an instruction fails once the program is closed, and stores the
given entries otherwise. -/
def loaderRuntime (program : Pubkey) (stored : List (Pubkey × ProgramCacheEntry)) : Runtime :=
  { prepareTopLevelInstructions := fun _ _ => .ok InstructionTrace.empty
    processInstruction := fun inp =>
      { result :=
          if inp.findProgram program = some { accountOwner := program, program := .closed } then
            .error .unsupportedProgramId
          else
            .ok ()
        computeUnitsConsumed := 0
        accountAfter := fun i =>
          ((inp.transactionContext.accounts[i]?).map Prod.snd).getD SolanaAccount.default
        returnData := (Pubkey.default, [])
        trace := InstructionTrace.empty
        storedPrograms := stored
        computeMeter := inp.computeMeter
        logCollector := inp.logCollector
        executeUs := inp.executeUs } }

/-- The program `9`, closed. -/
def closedEntry : ProgramCacheEntry :=
  { accountOwner := Pubkey.filled 9
    program := .closed }

/-- A VM with the program `9` loaded. -/
def programVm : QuasarSvm :=
  (Reference.emptyVm.addProgram Reference.crates (Pubkey.filled 9) (Pubkey.filled 234) [1]).1

def programCall : List Instruction :=
  [{ programId := Pubkey.filled 9
     accounts := []
     data := [] }]

theorem distinguishes_reference : Distinguishes Reference.crates :=
  ⟨Pubkey.filled 234, [1], [2], _, _, rfl, rfl, by decide⟩

/-- A simulation that stores nothing is forgotten. -/
theorem forgotten_iff_quiet :
    Forgotten Reference.crates (loaderRuntime (Pubkey.filled 9) []) programVm programCall []
      false := by
  refine (forgotten_iff distinguishes_reference programVm programCall [] false (Or.inl rfl)).2 ?_
  intro id e hlast
  have hnone : HashMap.lastOf id (callStoredPrograms Reference.crates
      (loaderRuntime (Pubkey.filled 9) []) programVm programCall []) = none := rfl
  cases hnone.symm.trans hlast

/-- A simulation that closes the program is remembered: the program is no longer found, and the
call that succeeded in the simulation fails. -/
theorem simulatedClose_remembered :
    CommitsNothing Reference.crates (loaderRuntime (Pubkey.filled 9) [(Pubkey.filled 9, closedEntry)])
        programVm programCall [] false ∧
      ¬ Forgotten Reference.crates
        (loaderRuntime (Pubkey.filled 9) [(Pubkey.filled 9, closedEntry)]) programVm programCall []
        false ∧
      ((programVm.simulateInstructionChain Reference.crates
          (loaderRuntime (Pubkey.filled 9) [(Pubkey.filled 9, closedEntry)]) programCall
          []).2.toOption.map ExecutionResult.rawResult) = some (.ok ()) ∧
      (((programVm.simulateInstructionChain Reference.crates
          (loaderRuntime (Pubkey.filled 9) [(Pubkey.filled 9, closedEntry)]) programCall
          []).1.processInstructionChain Reference.crates
            (loaderRuntime (Pubkey.filled 9) [(Pubkey.filled 9, closedEntry)]) programCall
            []).2.toOption.map ExecutionResult.rawResult) =
        some (.error .unsupportedProgramId) := by
  refine ⟨Or.inl rfl, ?_, by decide, by decide⟩
  intro hforgotten
  have hload := loadProgram_of_replies (hforgotten [.loadProgram (Pubkey.filled 9)])
  exact absurd hload (by decide)

end QuasarSvm
end Svm
end Quasar
