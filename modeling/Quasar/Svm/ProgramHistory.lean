import Quasar.Svm.Dispatch

/-!
# ProgramHistory — which program an id has after a history

Adding a program writes the map of loaders and ELFs and the base entries of the batch cache; the
runtime writes the modified entries, and a lookup consults them first.  So after a history the
program last added is shown, and it is also the one that is found unless an execution stored another
entry for the id, however long ago.  Whether it runs is up to the account that a call has under the
id, which a committed call may have stored as well.
-/

namespace Quasar
namespace Svm
namespace QuasarSvm

open Lib

variable {cr : Crates} {rt : Runtime} {svm : QuasarSvm} {id : Pubkey}

/-! ## What an operation writes -/

/-- The entry an operation leaves among the modified entries of the batch cache. -/
def storedEntry (cr : Crates) (rt : Runtime) (id : Pubkey) (svm : QuasarSvm) :
    Operation → Option ProgramCacheEntry
  | .execute ixs accounts _ => HashMap.lastOf id (callStoredPrograms cr rt svm ixs accounts)
  | _ => none

/-- The program an operation adds, with its ELF. -/
def addedProgram (cr : Crates) (id : Pubkey) : Operation → Option (ProgramCacheEntry × Bytes)
  | .addProgram programId loaderKey elf =>
      if programId = id then
        (cr.programCacheEntryNew loaderKey elf).map fun entry => (entry, elf)
      else
        none
  | _ => none

/-- Adding a program iterates over nothing. -/
@[simp] theorem addedProgram_withOrder (cr : Crates) (iter : List Pubkey → List Pubkey)
    (id : Pubkey) (op : Operation) :
    addedProgram (cr.withOrder iter) id op = addedProgram cr id op := by
  cases op <;> rfl

/-- How the map of loaders and ELFs records an added program. -/
def recordedEntry (p : ProgramCacheEntry × Bytes) : CacheEntry :=
  { loaderKey := p.1.accountOwner
    elf := some p.2 }

theorem RewritesData.programCache_eq {svm' : QuasarSvm} {address : Pubkey}
    (h : RewritesData svm svm' address) : svm'.programCache = svm.programCache := by
  rcases h with rfl | ⟨acct, data, _, rfl⟩
  · rfl
  · rfl

/-- Executions write modified entries, and added programs go to the two other maps. -/
theorem programCache_operate (cr : Crates) (rt : Runtime) (svm : QuasarSvm) (id : Pubkey)
    (op : Operation) :
    (svm.operate cr rt op).1.programCache.cache.modifiedEntries.lookup id =
        (storedEntry cr rt id svm op).or (svm.programCache.cache.modifiedEntries.lookup id) ∧
      (svm.operate cr rt op).1.programCache.cache.entries.lookup id =
        ((addedProgram cr id op).map Prod.fst).or (svm.programCache.cache.entries.lookup id) ∧
      (svm.operate cr rt op).1.programCache.entries.lookup id =
        ((addedProgram cr id op).map recordedEntry).or (svm.programCache.entries.lookup id) := by
  cases op with
  | execute ixs accounts commit =>
      have hcache : (svm.operate cr rt (.execute ixs accounts commit)).1.programCache = _ :=
        programCache_executeInner svm ixs accounts commit
      rw [hcache]
      refine ⟨?_, rfl, rfl⟩
      exact HashMap.lookup_insertAll _ _ _
  | addProgram programId loaderKey elf =>
      simp only [operate, addProgram, ProgramCache.addProgram, storedEntry, addedProgram,
        Option.none_or]
      cases cr.programCacheEntryNew loaderKey elf with
      | none => simp
      | some entry =>
          refine ⟨rfl, ?_, ?_⟩
          -- Each map is written under the added id only.
          · refine (HashMap.lookup_insert_eq _ _ _ _).trans ?_
            by_cases h : programId = id
            · simp [h]
            · simp [h]
          · refine (HashMap.lookup_insert_eq _ _ _ _).trans ?_
            by_cases h : programId = id
            · simp [h, recordedEntry]
            · simp [h]
  | setTokenBalance address amount =>
      simp only [operate, storedEntry, addedProgram,
        (rewritesData_setTokenBalance cr svm address amount).programCache_eq]
      exact ⟨rfl, rfl, rfl⟩
  | setMintSupply address supply =>
      simp only [operate, storedEntry, addedProgram,
        (rewritesData_setMintSupply cr svm address supply).programCache_eq]
      exact ⟨rfl, rfl, rfl⟩
  -- The others leave the program cache alone.
  | _ => exact ⟨rfl, rfl, rfl⟩

/-! ## Histories -/

/-- The entry that an operation leaves under the order that its call draws. -/
def storedByDraw (cr : Crates) (rt : Runtime) (id : Pubkey) (svm : QuasarSvm) (d : Drawn) :
    Option ProgramCacheEntry :=
  storedEntry (cr.withOrder d.2.iter) rt id svm d.1

/-- The last entry that a history left among the modified entries. -/
def lastStored (cr : Crates) (rt : Runtime) (svm : QuasarSvm) (draws : List Drawn)
    (id : Pubkey) : Option ProgramCacheEntry :=
  (drawnMachine cr rt).lastWrite (storedByDraw cr rt id) svm draws

/-- The history neither adds the program nor stores an entry for it. -/
def LeavesProgram (cr : Crates) (rt : Runtime) (svm : QuasarSvm) (draws : List Drawn)
    (id : Pubkey) : Prop :=
  ∀ step ∈ (drawnMachine cr rt).steps svm draws,
    storedByDraw cr rt id step.1 step.2 = none ∧ addedProgram cr id step.2.1 = none

theorem modifiedEntries_after (cr : Crates) (rt : Runtime) (svm : QuasarSvm)
    (draws : List Drawn) (id : Pubkey) :
    (svm.afterDrawn cr rt draws).programCache.cache.modifiedEntries.lookup id =
      (lastStored cr rt svm draws id).or (svm.programCache.cache.modifiedEntries.lookup id) :=
  Machine.cell_after (g := fun svm => svm.programCache.cache.modifiedEntries.lookup id)
    (fun svm d => (programCache_operate (cr.withOrder d.2.iter) rt svm id d.1).1) svm draws

/-- What the batch cache and the map of loaders and ELFs hold for an id. -/
def programView (svm : QuasarSvm) (id : Pubkey) :
    Option ProgramCacheEntry × Option ProgramCacheEntry × Option CacheEntry :=
  (svm.programCache.cache.modifiedEntries.lookup id, svm.programCache.cache.entries.lookup id,
    svm.programCache.entries.lookup id)

/-- A history that leaves the program alone leaves the view of it. -/
theorem LeavesProgram.programView_eq {draws : List Drawn}
    (h : LeavesProgram cr rt svm draws id) :
    (svm.afterDrawn cr rt draws).programView id = svm.programView id := by
  have hadded : ∀ {α : Type} (f : ProgramCacheEntry × Bytes → α),
      (drawnMachine cr rt).lastWrite
        (fun _ d => (addedProgram (cr.withOrder d.2.iter) id d.1).map f) svm draws = none := by
    intro α f
    refine Machine.lastWrite_eq_none _ ?_
    intro step hstep
    simp [(h step hstep).2]
  have hstored : lastStored cr rt svm draws id = none :=
    Machine.lastWrite_eq_none _ fun step hstep => (h step hstep).1
  have hmodified := modifiedEntries_after cr rt svm draws id
  have hbase : (svm.afterDrawn cr rt draws).programCache.cache.entries.lookup id = _ :=
    Machine.cell_after (g := fun svm => svm.programCache.cache.entries.lookup id)
      (fun svm d => (programCache_operate (cr.withOrder d.2.iter) rt svm id d.1).2.1) svm draws
  have hrecorded : (svm.afterDrawn cr rt draws).programCache.entries.lookup id = _ :=
    Machine.cell_after (g := fun svm => svm.programCache.entries.lookup id)
      (fun svm d => (programCache_operate (cr.withOrder d.2.iter) rt svm id d.1).2.2) svm draws
  rw [hstored, Option.none_or] at hmodified
  rw [hadded Prod.fst, Option.none_or] at hbase
  rw [hadded recordedEntry, Option.none_or] at hrecorded
  rw [programView, hmodified, hbase, hrecorded, programView]

/-- An added program is recorded behind the modified entry that the history left. -/
theorem programView_add {loader : Pubkey} {elf : Bytes} {entry : ProgramCacheEntry}
    (hadd : cr.programCacheEntryNew loader elf = some entry) (svm : QuasarSvm)
    (draws : List Drawn) (order : SetOrder) :
    (svm.afterDrawn cr rt (draws ++ [(.addProgram id loader elf, order)])).programView id =
      ((lastStored cr rt svm draws id).or (svm.programCache.cache.modifiedEntries.lookup id),
        some entry, some { loaderKey := entry.accountOwner, elf := some elf }) := by
  have hadded : addedProgram (cr.withOrder order.iter) id (.addProgram id loader elf) =
      some (entry, elf) := by
    rw [addedProgram_withOrder]
    simp [addedProgram, hadd]
  have hlast : svm.afterDrawn cr rt (draws ++ [(.addProgram id loader elf, order)]) =
      ((svm.afterDrawn cr rt draws).operate (cr.withOrder order.iter) rt
        (.addProgram id loader elf)).1 :=
    (drawnMachine cr rt).after_append svm draws [(.addProgram id loader elf, order)]
  rcases programCache_operate (cr.withOrder order.iter) rt (svm.afterDrawn cr rt draws) id
    (.addProgram id loader elf) with ⟨hmodified, hbase, hrecorded⟩
  rw [hlast, programView, hmodified, hbase, hrecorded, hadded, modifiedEntries_after]
  rfl

/-! ## What runs -/

/-- What the runtime finds under an id at the instructions of a run, up to the first one that stores
an entry for the id itself. -/
def foundPrograms (rt : Runtime) (id : Pubkey) :
    List CompiledInstruction → InvokeContext → List (Option ProgramCacheEntry)
  | [], _ => []
  | _ :: rest, ic =>
      let o := rt.processInstruction ic.input
      ic.input.findProgram id ::
        match o.result with
        -- A failed instruction is the last one of the run.
        | .ok () =>
            if id ∈ o.storedPrograms.map Prod.fst then [] else foundPrograms rt id rest (ic.apply o)
        | .error _ => []

/-- A call runs the entry under the id, in whatever order it lists its program ids: the account that
it has there has a loader for its owner, which is handed the instructions, and what the loader then
finds under the id is the entry. -/
structure RunsNext (cr : Crates) (rt : Runtime) (svm : QuasarSvm) (id : Pubkey)
    (entry : ProgramCacheEntry) (ixs : List Instruction) (accounts : List Account) : Prop where
  account : RunsInCall cr svm id ixs accounts
  found : ∀ (order : SetOrder) trace,
    rt.prepareTopLevelInstructions (svm.message cr ixs accounts)
        (svm.initialContext (cr.withOrder order.iter) ixs accounts) = .ok trace →
      ∀ found ∈ foundPrograms rt id (svm.message cr ixs accounts).message.instructions
        (svm.startContext (cr.withOrder order.iter) ixs accounts trace), found = some entry

/-- Until an instruction stores an entry for the id, each finds what the first one does. -/
theorem eq_of_mem_foundPrograms {ixs : List CompiledInstruction} {ic : InvokeContext}
    {found : Option ProgramCacheEntry} (h : found ∈ foundPrograms rt id ixs ic) :
    found = ic.programCache.find id := by
  induction ixs generalizing ic with
  | nil => cases h
  | cons ix rest ih =>
      rcases List.mem_cons.1 h with rfl | h
      · rfl
      · cases hresult : (rt.processInstruction ic.input).result with
        | error e =>
            rw [hresult] at h
            cases h
        | ok u =>
            rw [hresult] at h
            by_cases hstores : id ∈ (rt.processInstruction ic.input).storedPrograms.map Prod.fst
            · simp [hstores] at h
            · -- The instruction stored entries for other ids only.
              simp only [hstores, if_false] at h
              rw [ih h]
              simp [InvokeContext.apply, ProgramCacheForTxBatch.find,
                ProgramCacheForTxBatch.storeModifiedEntries, HashMap.lookup_insertAll,
                HashMap.lastOf_eq_none_iff.2 hstores]

theorem runsNext_of_loadProgram {entry : ProgramCacheEntry} {ixs : List Instruction}
    {accounts : List Account} (h : svm.programCache.loadProgram id = some entry)
    (hruns : RunsInCall cr svm id ixs accounts) : RunsNext cr rt svm id entry ixs accounts := by
  refine ⟨hruns, ?_⟩
  intro order trace _ found hfound
  exact (eq_of_mem_foundPrograms hfound).trans h

/-! ## What is shown -/

/-- Fallback accounts that show the loader and, for loader v3, the ELF in the programdata account
that the program account points to. -/
structure ShowsProgram (cr : Crates) (id loader : Pubkey) (elf : Bytes)
    (accounts : List (Pubkey × SolanaAccount)) : Prop where
  owner : ∃ a rest, accounts = (id, a) :: rest ∧ a.owner = loader
  programdata : loader = cr.loaderV3Id → ∃ a programdata,
    accounts = [(id, a), (programdataAddress cr id, programdata)] ∧
      a.data = cr.serializeLoaderState (.program (programdataAddress cr id)) ∧
      programdata.owner = loader ∧
      programdata.data = cr.serializeLoaderState (.programData 0 none) ++ elf

/-- The accounts show a recorded program exactly when its loader is known. -/
theorem showsProgram_iff (hcr : LoaderCrates cr) {pc : ProgramCache} {loader : Pubkey}
    {elf : Bytes} (hentry : pc.entries.lookup id = some { loaderKey := loader, elf := some elf }) :
    ShowsProgram cr id loader elf (pc.maybeCreateProgramAccounts cr id) ↔
      KnownLoader cr loader := by
  unfold ProgramCache.maybeCreateProgramAccounts KnownLoader
  simp only [hentry]
  by_cases hnative : loader = cr.nativeLoaderId
  · subst hnative
    simp only [if_true, true_or, iff_true]
    exact ⟨⟨_, [], rfl, rfl⟩, fun h => absurd h hcr.native_ne_v3⟩
  · simp only [hnative, if_false, false_or]
    by_cases hv2 : loader = cr.loaderV2Id
    · subst hv2
      simp only [if_true, true_or, iff_true]
      exact ⟨⟨_, [], rfl, rfl⟩, fun h => absurd h hcr.v2_ne_v3⟩
    · simp only [hv2, if_false, false_or]
      by_cases hv3 : loader = cr.loaderV3Id
      · subst hv3
        simp only [if_true, true_or, iff_true]
        exact ⟨⟨_, _, rfl, rfl⟩, fun _ => ⟨_, _, rfl, rfl, rfl, rfl⟩⟩
      · -- Any other loader has a stub, which keeps the default owner.
        simp only [hv3, if_false, false_or]
        constructor
        · rintro ⟨⟨a, rest, haccounts, howner⟩, _⟩
          cases haccounts
          exact howner.symm
        · rintro rfl
          exact ⟨⟨_, [], rfl, rfl⟩, fun h => absurd h hv3⟩

/-! ## The last writer -/

/-- The program last added is what the call runs, what is found, and what the fallback accounts
show. -/
structure LastWriterWins (cr : Crates) (rt : Runtime) (svm : QuasarSvm) (id loader : Pubkey)
    (elf : Bytes) (entry : ProgramCacheEntry) (ixs : List Instruction) (accounts : List Account) :
    Prop where
  runs : RunsNext cr rt svm id entry ixs accounts
  loads : svm.programCache.loadProgram id = some entry
  shows : ShowsProgram cr id loader elf (svm.programCache.maybeCreateProgramAccounts cr id)

/-- After any history an added program wins in the next call of it exactly when the last entry that
an execution of the history stored for its id, if there is one, is the same, its loader is known, and
a loader owns whichever account the call has under the id.  What follows the addition may be any
history that neither adds the program nor stores an entry for it. -/
theorem lastWriterWins_iff (cr : Crates) (rt : Runtime) (hcr : LoaderCrates cr) (svm : QuasarSvm)
    (id : Pubkey) (hnew : svm.programCache.cache.modifiedEntries.lookup id = none)
    (draws : List Drawn) (loader : Pubkey) (elf : Bytes) (entry : ProgramCacheEntry)
    (hadd : cr.programCacheEntryNew loader elf = some entry) (order : SetOrder)
    (later : List Drawn)
    (hlater : LeavesProgram cr rt
      (svm.afterDrawn cr rt (draws ++ [(.addProgram id loader elf, order)])) later id)
    (ixs : List Instruction) (accounts : List Account)
    (hnamed : id ∈ (cr.messageNew ixs).accountKeys) :
    LastWriterWins cr rt
        ((svm.afterDrawn cr rt (draws ++ [(.addProgram id loader elf, order)])).afterDrawn cr rt
          later) id loader elf entry ixs accounts ↔
      (∀ e, lastStored cr rt svm draws id = some e → e = entry) ∧ KnownLoader cr loader ∧
        LoaderOwned cr
          ((svm.afterDrawn cr rt (draws ++ [(.addProgram id loader elf, order)])).afterDrawn cr rt
            later) id loader ixs accounts := by
  have hview := hlater.programView_eq.trans (programView_add hadd svm draws order)
  rw [hnew, Option.or_none, hcr.accountOwner_new loader elf entry hadd] at hview
  revert hview
  generalize (svm.afterDrawn cr rt (draws ++ [(.addProgram id loader elf, order)])).afterDrawn cr rt
    later = final
  intro hview
  rcases Prod.mk.injEq _ _ _ _ ▸ hview with ⟨hmodified, hrest⟩
  rcases Prod.mk.injEq _ _ _ _ ▸ hrest with ⟨hbase, hentry⟩
  -- The modified entries are consulted before the base entry that the addition wrote.
  have hload : final.programCache.loadProgram id =
      (lastStored cr rt svm draws id).or (some entry) := by
    rw [ProgramCache.loadProgram, ProgramCacheForTxBatch.find, hmodified, hbase]
  constructor
  · intro h
    have hknown := (showsProgram_iff hcr hentry).1 h.shows
    refine ⟨?_, hknown, (runsInCall_iff hcr hentry hknown hnamed).1 h.runs.account⟩
    intro e he
    have hfound := hload.symm.trans h.loads
    rw [he, Option.some_or] at hfound
    exact Option.some.inj hfound
  · rintro ⟨hstored, hknown, howned⟩
    have hfound : final.programCache.loadProgram id = some entry := by
      rw [hload]
      cases hlast : lastStored cr rt svm draws id with
      | none => rfl
      | some e => rw [hstored e hlast, Option.some_or]
    exact
      { runs := runsNext_of_loadProgram hfound
          ((runsInCall_iff hcr hentry hknown hnamed).2 howned)
        loads := hfound
        shows := (showsProgram_iff hcr hentry).2 hknown }

/-- The VM whose cache has the two loaders, which are builtins. -/
def loadersVm : QuasarSvm :=
  { Reference.emptyVm with
    programCache :=
      (Reference.emptyVm.programCache.replenish (Pubkey.filled 233)
        { accountOwner := Pubkey.filled 232, program := .builtin "loader_v2" } none).replenish
        (Pubkey.filled 234)
        { accountOwner := Pubkey.filled 232, program := .builtin "loader_v3" } none }

def drawn (ops : List Operation) : List Drawn :=
  ops.map fun op => (op, SetOrder.dedup)

/-- A program is added, called, added for another loader, and added for loader v3 again. -/
def readdings : List Operation :=
  [.addProgram (Pubkey.filled 9) (Pubkey.filled 234) [1], .execute programCall [] true,
    .addProgram (Pubkey.filled 9) (Pubkey.filled 233) [2]]

theorem loaderCrates_ok : LoaderCrates Reference.loaderCrates :=
  { native_ne_v3 := by decide
    v2_ne_v3 := by decide
    sdkSysvar_ne := by decide
    sysvarOwner_ne := by decide
    accountOwner_new := by
      rintro loader elf entry h
      cases h
      rfl }

/-- Where no call stored an entry the last ELF wins, also after a call that follows and in a call
that passes an account of the program. -/
theorem lastWriterWins_iff_readded :
    LastWriterWins Reference.loaderCrates (loaderRuntime (Pubkey.filled 9) [])
      ((loadersVm.afterDrawn Reference.loaderCrates (loaderRuntime (Pubkey.filled 9) [])
          (drawn readdings ++
            [(.addProgram (Pubkey.filled 9) (Pubkey.filled 234) [3], SetOrder.dedup)])).afterDrawn
        Reference.loaderCrates (loaderRuntime (Pubkey.filled 9) [])
        (drawn [.execute programCall [] true]))
      (Pubkey.filled 9) (Pubkey.filled 234) [3]
      { accountOwner := Pubkey.filled 234, program := .loaded [3] } programCall
      [Account.fromPair (Pubkey.filled 9)
        { SolanaAccount.default with owner := Pubkey.filled 233 }] := by
  refine (lastWriterWins_iff Reference.loaderCrates (loaderRuntime (Pubkey.filled 9) [])
    loaderCrates_ok loadersVm (Pubkey.filled 9) rfl (drawn readdings) (Pubkey.filled 234) [3] _ rfl
    SetOrder.dedup (drawn [.execute programCall [] true]) ?_ programCall _ (by decide)).2
    ⟨?_, ?_, ?_⟩
  · intro step hstep
    rcases List.mem_singleton.1 hstep with rfl
    exact ⟨rfl, rfl⟩
  · intro e he
    have hnone : lastStored Reference.loaderCrates (loaderRuntime (Pubkey.filled 9) []) loadersVm
        (drawn readdings) (Pubkey.filled 9) = none := by
      decide
    cases hnone.symm.trans he
  · exact Or.inr (Or.inr (Or.inl rfl))
  · have hpassed : ∀ svm : QuasarSvm, Supplied svm
        [Account.fromPair (Pubkey.filled 9)
          { SolanaAccount.default with owner := Pubkey.filled 233 }] (Pubkey.filled 9) :=
      fun svm => Or.inr ⟨_, List.mem_singleton_self _, rfl⟩
    refine ⟨?_, fun h => absurd (hpassed _) h, fun h => absurd (hpassed _) h,
      fun h => absurd (hpassed _) h, fun h => absurd (hpassed _) h⟩
    intro a ha
    rw [firstOf_mergedAccounts] at ha
    cases ha
    refine ⟨Or.inl rfl, Pubkey.filled 232, "loader_v2", ?_⟩
    decide

/-- The VM in which the program `9` was added, closed by a call, and added again. -/
def readdedVm : QuasarSvm :=
  loadersVm.afterDrawn Reference.loaderCrates
    (loaderRuntime (Pubkey.filled 9) [(Pubkey.filled 9, closedEntry)])
    (drawn [.addProgram (Pubkey.filled 9) (Pubkey.filled 234) [1], .execute programCall [] true,
      .addProgram (Pubkey.filled 9) (Pubkey.filled 234) [2]])

/-- The VM in which a call stored an account of the system program under `9` before the program was
added. -/
def fundedVm : QuasarSvm :=
  loadersVm.afterDrawn Reference.loaderCrates Reference.idleRuntime
    (drawn [.execute programCall [oneLamport (Pubkey.filled 9)] true,
      .addProgram (Pubkey.filled 9) (Pubkey.filled 234) [1]])

/-- The VM in which the program `9` was added for a loader without fallback accounts. -/
def otherLoaderVm : QuasarSvm :=
  loadersVm.afterDrawn Reference.loaderCrates Reference.idleRuntime
    (drawn [.addProgram (Pubkey.filled 9) (Pubkey.filled 235) [1]])

/-- A program that was closed once stays closed when it is added again, one whose id was funded runs
under the owner of that account, and one of a loader that is not known is shown with the default
owner. -/
theorem readded_program_stays_closed :
    readdedVm.programCache.loadProgram (Pubkey.filled 9) = some closedEntry ∧
      ((readdedVm.processInstructionChain Reference.loaderCrates
          (loaderRuntime (Pubkey.filled 9) [(Pubkey.filled 9, closedEntry)]) programCall
            []).2.toOption.map ExecutionResult.rawResult) = some (.error .unsupportedProgramId) ∧
      ¬ LastWriterWins Reference.loaderCrates
        (loaderRuntime (Pubkey.filled 9) [(Pubkey.filled 9, closedEntry)]) readdedVm
        (Pubkey.filled 9) (Pubkey.filled 234) [2]
        { accountOwner := Pubkey.filled 234, program := .loaded [2] } programCall [] ∧
      ¬ LastWriterWins Reference.loaderCrates Reference.idleRuntime fundedVm
        (Pubkey.filled 9) (Pubkey.filled 234) [1]
        { accountOwner := Pubkey.filled 234, program := .loaded [1] } programCall [] ∧
      ¬ LastWriterWins Reference.loaderCrates Reference.idleRuntime otherLoaderVm
        (Pubkey.filled 9) (Pubkey.filled 235) [1]
        { accountOwner := Pubkey.filled 235, program := .loaded [1] } programCall [] := by
  have hclosed : readdedVm.programCache.loadProgram (Pubkey.filled 9) = some closedEntry := by
    decide
  refine ⟨hclosed, by decide, ?_, ?_, ?_⟩
  · intro h
    cases hclosed.symm.trans h.loads
  · -- The system program owns the account under the id.
    intro h
    have hfunded : HashMap.firstOf (Pubkey.filled 9) (fundedVm.mergedAccounts []) =
        some { SolanaAccount.default with lamports := 1 } := by
      decide
    rcases ((runsInCall_of_supplied (by decide) hfunded).1 h.runs.account).1 with howner | howner
    · exact absurd howner (by decide)
    · exact absurd howner (by decide)
  · -- The stub of a loader that is not known keeps the default owner.
    intro h
    rcases h.shows.owner with ⟨a, rest, haccounts, howner⟩
    have hstub : otherLoaderVm.programCache.maybeCreateProgramAccounts Reference.loaderCrates
        (Pubkey.filled 9) =
          [(Pubkey.filled 9, { SolanaAccount.default with executable := true })] := by
      decide
    cases hstub.symm.trans haccounts
    exact absurd howner (by decide)

end QuasarSvm
end Svm
end Quasar
