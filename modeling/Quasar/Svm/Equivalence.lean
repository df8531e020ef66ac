import Quasar.Svm.Draws
import Quasar.Svm.StoreHistory

/-!
# Equivalence — calls that merge the same accounts

Two calls whose merged lists hold the same account under every address have the same view of the
transaction, and where they run alike they report and store the same.  Passing accounts and storing
them first merge the same; so do passing the accounts that the last call reported and passing none.
-/

namespace Quasar
namespace Svm
namespace QuasarSvm

open Lib

variable {cr cr' : Crates} {rt : Runtime} {svm svm' : QuasarSvm} {ixs : List Instruction}
  {accounts accounts' : List Account} {o : MessageOutcome} {k : Pubkey}

/-! ## Reports and stores of a run -/

theorem find_pairsToSvmAccounts (l : List (Pubkey × SolanaAccount)) (k : Pubkey) :
    (pairsToSvmAccounts l).find? (fun a => a.address = k) =
      (HashMap.firstOf k l).map (Account.fromPair k) := by
  rw [pairsToSvmAccounts, List.find?_map, HashMap.firstOf, Option.map_map]
  change (l.find? fun p => p.1 = k).map (fun p => Account.fromPair p.1 p.2) =
    (l.find? fun p => p.1 = k).map fun p => Account.fromPair k p.2
  cases hfind : l.find? fun p => p.1 = k with
  | none => rfl
  | some p =>
      have hkey : p.1 = k := by simpa using List.find?_some hfind
      simp [hkey]

/-- What is reported under an address. -/
theorem account_report_eq (merged resulting : List (Pubkey × SolanaAccount)) (logs : List String)
    (k : Pubkey) :
    (report cr merged resulting logs o).account k =
      (HashMap.firstOf k resulting).map (Account.fromPair k) :=
  find_pairsToSvmAccounts resulting k

/-- The account that a run leaves under an address, from the one that was merged under it. -/
def finalAccount (o : MessageOutcome) (k : Pubkey) (a : SolanaAccount) : SolanaAccount :=
  (o.context.transactionContext.findAccount k).getD a

theorem resultingAccounts_eq (svm : QuasarSvm) (accounts : List Account) (o : MessageOutcome) :
    svm.resultingAccounts accounts o =
      (svm.mergedAccounts accounts).map fun p => (p.1, finalAccount o p.1 p.2) := rfl

theorem firstOf_resultingAccounts (svm : QuasarSvm) (accounts : List Account) (o : MessageOutcome)
    (k : Pubkey) :
    HashMap.firstOf k (svm.resultingAccounts accounts o) =
      (HashMap.firstOf k (svm.mergedAccounts accounts)).map (finalAccount o k) :=
  HashMap.firstOf_map (finalAccount o) k _

theorem lastOf_resultingAccounts (svm : QuasarSvm) (accounts : List Account) (o : MessageOutcome)
    (k : Pubkey) :
    HashMap.lastOf k (svm.resultingAccounts accounts o) =
      (HashMap.lastOf k (svm.mergedAccounts accounts)).map (finalAccount o k) :=
  HashMap.lastOf_map (finalAccount o) k _

/-- After a commit an address holds the last account that was merged under it, as the run left it. -/
theorem lookup_commitAccounts (svm : QuasarSvm) (accounts : List Account) (o : MessageOutcome)
    (k : Pubkey) :
    ((svm.afterRun o).commitAccounts (svm.resultingAccounts accounts o)).accounts.lookup k =
      (HashMap.lastOf k (svm.mergedAccounts accounts)).map (finalAccount o k) := by
  rw [commitAccounts, HashMap.lookup_insertAll, lastOf_resultingAccounts, accounts_afterRun]
  cases hlast : HashMap.lastOf k (svm.mergedAccounts accounts) with
  | some a => rfl
  | none =>
      -- What is stored is merged as well.
      have hnot : svm.accounts.lookup k = none := by
        rw [lastOf_mergedAccounts, Option.or_eq_none_iff] at hlast
        exact hlast.2
      simp [hnot]

/-- The transaction of a call has a supplied key exactly when the message does. -/
theorem findAccount_isSome_iff (hrun : svm.run cr rt ixs accounts = some o)
    (hsupplied : Supplied svm accounts k) :
    (o.context.transactionContext.findAccount k).isSome ↔
      k ∈ (cr.messageNew ixs).accountKeys := by
  have hkeys : (o.context.transactionContext.findAccount k).isSome ↔
      ((svm.initialContext cr ixs accounts).findAccount k).isSome := by
    change (HashMap.firstOf k _).isSome ↔ (HashMap.firstOf k _).isSome
    rw [HashMap.isSome_firstOf_iff, HashMap.isSome_firstOf_iff, keys_of_run hrun]
  rw [hkeys]
  by_cases hk : k ∈ (cr.messageNew ixs).accountKeys
  · simp [findAccount_of_mem_keys hk, hk]
  · have hmem := mem_mergedKeys_iff.2 hsupplied
    simp [findAccount_of_not_mem_keys hk, hmem, hk]

/-- A run leaves a supplied account alone that its message does not name. -/
theorem finalAccount_eq_id (hrun : svm.run cr rt ixs accounts = some o)
    (hsupplied : Supplied svm accounts k) (hk : k ∉ (cr.messageNew ixs).accountKeys) :
    finalAccount o k = id := by
  have hnone : o.context.transactionContext.findAccount k = none := by
    rw [← Option.not_isSome_iff_eq_none, findAccount_isSome_iff hrun hsupplied]
    exact hk
  funext a
  simp [finalAccount, hnone]

/-! ## Same outcomes -/

/-- Two reports that agree on everything but the order of their accounts and balances. -/
structure SameReport (r r' : ExecutionResult) : Prop where
  rawResult : r'.rawResult = r.rawResult
  logs : r'.logs = r.logs
  returnData : r'.returnData = r.returnData
  computeUnitsConsumed : r'.computeUnitsConsumed = r.computeUnitsConsumed
  executionTrace : r'.executionTrace = r.executionTrace
  account : ∀ k, r'.account k = r.account k

/-- Two calls that panic alike, or that report alike and, when they succeed, store alike. -/
def SameOutcome (out out' : Call ExecutionResult) : Prop :=
  match out.2, out'.2 with
  | .error m, .error m' => m' = m
  | .ok r, .ok r' =>
      SameReport r r' ∧
        (r.rawResult = .ok () → ∀ k, out'.1.accounts.lookup k = out.1.accounts.lookup k)
  | _, _ => False

/-- Calls with the same outcome report the same result, or none. -/
theorem SameOutcome.rawResult_eq {out out' : Call ExecutionResult} (h : SameOutcome out out') :
    out'.2.toOption.map ExecutionResult.rawResult =
      out.2.toOption.map ExecutionResult.rawResult := by
  unfold SameOutcome at h
  cases hout : out.2 with
  | error m =>
      cases hout' : out'.2 with
      | error m' => rfl
      | ok r' => simp [hout, hout'] at h
  | ok r =>
      cases hout' : out'.2 with
      | error m' => simp [hout, hout'] at h
      | ok r' =>
          simp only [hout, hout'] at h
          exact congrArg some h.1.rawResult

/-- Two calls with one view that also merge the same last account under every address. -/
structure SameMerge (svm svm' : QuasarSvm) (accounts accounts' : List Account) : Prop where
  view : SameView svm svm' accounts accounts'
  last : ∀ k, HashMap.lastOf k (svm'.mergedAccounts accounts') =
    HashMap.lastOf k (svm.mergedAccounts accounts)

theorem SameMerge.trans {svm₁ svm₂ svm₃ : QuasarSvm} {accounts₁ accounts₂ accounts₃ : List Account}
    (h : SameMerge svm₁ svm₂ accounts₁ accounts₂) (h' : SameMerge svm₂ svm₃ accounts₂ accounts₃) :
    SameMerge svm₁ svm₃ accounts₁ accounts₃ := by
  refine ⟨⟨?_, ?_, ?_, ?_⟩, ?_⟩
  · exact h'.view.sysvars.trans h.view.sysvars
  · exact h'.view.programs.trans h.view.programs
  · exact h'.view.budget.trans h.view.budget
  · exact fun k => (h'.view.merged k).trans (h.view.merged k)
  · exact fun k => (h'.last k).trans (h.last k)

/-- Calls that run alike and merge the same have the same outcome. -/
theorem sameOutcome_of_run
    (hrun : svm'.run cr' rt ixs accounts' = svm.run cr rt ixs accounts)
    (hmerge : SameMerge svm svm' accounts accounts') :
    SameOutcome (svm.processInstructionChain cr rt ixs accounts)
      (svm'.processInstructionChain cr' rt ixs accounts') := by
  have hfirst := hmerge.view.merged
  have hlast := hmerge.last
  unfold processInstructionChain SameOutcome
  cases ho : svm.run cr rt ixs accounts with
  | none => rw [executeInner_of_none ho, executeInner_of_none (hrun.trans ho)]
  | some o =>
      rw [executeInner_of_some ho, executeInner_of_some (hrun.trans ho)]
      cases hresult : o.rawResult with
      | error e =>
          simp only [settle, hresult]
          refine ⟨⟨rfl, rfl, rfl, rfl, rfl, ?_⟩, ?_⟩
          · intro k
            rw [account_report_eq, account_report_eq, hfirst]
          · intro hok
            cases hresult.symm.trans hok
      | ok u =>
          simp only [settle, hresult, if_true]
          refine ⟨⟨rfl, rfl, rfl, rfl, rfl, ?_⟩, ?_⟩
          · intro k
            rw [account_report_eq, account_report_eq, firstOf_resultingAccounts,
              firstOf_resultingAccounts, hfirst]
          · intro _ k
            rw [lookup_commitAccounts, lookup_commitAccounts, hlast]

/-- The fallbacks of two calls with one view are those of the same programs. -/
theorem SameView.lookup_fallbacks (h : SameView svm svm' accounts accounts')
    (hnot : ¬ Supplied svm accounts k) :
    (fallbacks cr svm' ixs accounts').lookup k = (fallbacks cr svm ixs accounts).lookup k := by
  by_cases hk : k = cr.instructionsSysvarId
  · subst hk
    have hnot' : ¬ Supplied svm' accounts' cr.instructionsSysvarId :=
      fun hs => hnot ((h.supplied_iff _).1 hs)
    rw [lookup_fallbacks_sysvar hnot, lookup_fallbacks_sysvar hnot']
  · rw [lookup_fallbacks_of_ne hk, lookup_fallbacks_of_ne hk, fallbackPairs, fallbackPairs,
      h.missingPrograms_eq]
    simp only [funext h.programFallbacks_eq]

/-- Calls with one view run alike. -/
theorem SameView.run_eq (h : SameView svm svm' accounts accounts') :
    svm'.run cr rt ixs accounts' = svm.run cr rt ixs accounts := by
  have hresolved : ∀ k, resolved cr svm' ixs accounts' k = resolved cr svm ixs accounts k :=
    fun k => resolved_congr h h.lookup_fallbacks rfl rfl
  have haccounts : (svm'.initialContext cr ixs accounts').accounts =
      (svm.initialContext cr ixs accounts).accounts := by
    simp only [accounts_initialContext, hresolved, h.mem_keys_iff]
  refine run_congr rfl rfl (initialContext_congr haccounts h.sysvars h.budget) ?_
    (congrArg ProgramCache.cache h.programs) h.budget
  funext s
  rw [setupSysvarCache_apply, setupSysvarCache_apply, h.merged, h.sysvars]

/-! ## Passing and storing accounts -/

theorem foldl_setAccount (svm : QuasarSvm) (accounts : List Account) :
    accounts.foldl setAccount svm =
      { svm with accounts := HashMap.insertAll svm.accounts (accounts.map Account.toPair) } := by
  induction accounts generalizing svm with
  | nil => rfl
  | cons a accounts ih => exact ih (svm.setAccount a)

theorem firstOf_mergedAccounts_nil (svm : QuasarSvm) (k : Pubkey) :
    HashMap.firstOf k (svm.mergedAccounts []) = svm.accounts.lookup k := by
  simp [firstOf_mergedAccounts]

theorem lastOf_mergedAccounts_nil (svm : QuasarSvm) (k : Pubkey) :
    HashMap.lastOf k (svm.mergedAccounts []) = svm.accounts.lookup k := by
  simp [lastOf_mergedAccounts]

/-- Distinct accounts are merged alike whether they are passed or stored first. -/
theorem sameMerge_setAccounts (svm : QuasarSvm) (hdistinct : (accounts.map Account.address).Nodup) :
    SameMerge svm (accounts.foldl setAccount svm) accounts [] := by
  have hnodup : ((accounts.map Account.toPair).map Prod.fst).Nodup := by
    rw [map_fst_toPair]
    exact hdistinct
  -- Under each address both calls merge the one explicit account, or else the stored one.
  have hlast : ∀ k, HashMap.lastOf k ((accounts.foldl setAccount svm).mergedAccounts []) =
      HashMap.lastOf k (svm.mergedAccounts accounts) := by
    intro k
    rw [lastOf_mergedAccounts_nil, lastOf_mergedAccounts, foldl_setAccount]
    exact HashMap.lookup_insertAll _ _ k
  have hfirst : ∀ k, HashMap.firstOf k ((accounts.foldl setAccount svm).mergedAccounts []) =
      HashMap.firstOf k (svm.mergedAccounts accounts) := by
    intro k
    calc HashMap.firstOf k ((accounts.foldl setAccount svm).mergedAccounts [])
        = HashMap.lastOf k ((accounts.foldl setAccount svm).mergedAccounts []) := by
          rw [firstOf_mergedAccounts_nil, lastOf_mergedAccounts_nil]
      _ = HashMap.lastOf k (svm.mergedAccounts accounts) := hlast k
      _ = HashMap.firstOf k (svm.mergedAccounts accounts) := by
          rw [lastOf_mergedAccounts, firstOf_mergedAccounts,
            HashMap.lastOf_eq_firstOf_of_nodup hnodup]
  refine ⟨⟨?_, ?_, ?_, hfirst⟩, hlast⟩
  · rw [foldl_setAccount]
  · rw [foldl_setAccount]
  · rw [foldl_setAccount]

/-! ## Rent epochs -/

/-- The runtime leaves the rent epoch of every account as it is. -/
def KeepsRentEpoch (rt : Runtime) : Prop :=
  ∀ inp i p, inp.transactionContext.accounts[i]? = some p →
    ((rt.processInstruction inp).accountAfter i).rentEpoch = p.2.rentEpoch

/-- Every account in the list has rent epoch 0, as accounts have that pass through `Account`. -/
def NoRentEpoch (l : List (Pubkey × SolanaAccount)) : Prop :=
  ∀ p ∈ l, p.2.rentEpoch = 0

/-- Every stored account has rent epoch 0. -/
def StoreNoRentEpoch (svm : QuasarSvm) : Prop :=
  ∀ k a, svm.accounts.lookup k = some a → a.rentEpoch = 0

theorem noRentEpoch_mergedAccounts (h : StoreNoRentEpoch svm) :
    NoRentEpoch (svm.mergedAccounts accounts) := by
  intro p hp
  rcases List.mem_append.1 hp with hp | hp
  · exact h p.1 p.2 (HashMap.mem_toPairs_iff.1 (List.mem_filter.1 hp).1)
  · rcases List.mem_map.1 hp with ⟨a, _, rfl⟩
    rfl

theorem noRentEpoch_maybeCreateProgramAccounts (pc : ProgramCache) (pid : Pubkey) :
    NoRentEpoch (pc.maybeCreateProgramAccounts cr pid) := by
  unfold ProgramCache.maybeCreateProgramAccounts NoRentEpoch
  cases pc.entries.lookup pid with
  | none => simp
  | some entry =>
      dsimp only
      split_ifs
      · simp [SolanaAccount.default]
      · simp [SolanaAccount.default]
      · simp [SolanaAccount.default]
      · simp [SolanaAccount.default]

theorem noRentEpoch_programFallbacks (pid : Pubkey) :
    NoRentEpoch (svm.programFallbacks cr pid) := by
  unfold programFallbacks
  dsimp only
  split_ifs
  · simp [NoRentEpoch, SolanaAccount.default]
  · exact noRentEpoch_maybeCreateProgramAccounts _ _

theorem rentEpoch_fallbacks {a : SolanaAccount} (hnot : ¬ Supplied svm accounts k)
    (h : (fallbacks cr svm ixs accounts).lookup k = some a) : a.rentEpoch = 0 := by
  by_cases hk : k = cr.instructionsSysvarId
  · subst hk
    cases (lookup_fallbacks_sysvar hnot).symm.trans h
    rfl
  · rw [lookup_fallbacks_of_ne hk] at h
    rcases List.mem_flatMap.1 (HashMap.mem_of_lastOf h) with ⟨pid, _, hp⟩
    exact noRentEpoch_programFallbacks pid _ hp

/-- Every key resolves to an account with rent epoch 0. -/
theorem rentEpoch_resolved (h : StoreNoRentEpoch svm) (k : Pubkey) :
    (resolved cr svm ixs accounts k).rentEpoch = 0 := by
  cases hfirst : HashMap.firstOf k (svm.mergedAccounts accounts) with
  | some a =>
      rw [resolved_of_supplied hfirst]
      exact noRentEpoch_mergedAccounts h _ (HashMap.mem_of_firstOf hfirst)
  | none =>
      have hnot := firstOf_mergedAccounts_eq_none_iff.1 hfirst
      rw [resolved_of_not_supplied hnot]
      cases hfallback : (fallbacks cr svm ixs accounts).lookup k with
      | some a => exact rentEpoch_fallbacks hnot hfallback
      | none =>
          cases hsysvar : svm.sysvars.maybeCreateSysvarAccount cr k with
          | some a =>
              rcases Option.map_eq_some_iff.1 hsysvar with ⟨s, _, rfl⟩
              rfl
          | none =>
              cases hprogram : HashMap.firstOf k
                  (svm.programCache.maybeCreateProgramAccounts cr k) with
              | some a =>
                  exact noRentEpoch_maybeCreateProgramAccounts _ _ _
                    (HashMap.mem_of_firstOf hprogram)
              | none => rfl

theorem noRentEpoch_initialContext (h : StoreNoRentEpoch svm) :
    NoRentEpoch (svm.initialContext cr ixs accounts).accounts := by
  intro p hp
  rw [accounts_initialContext] at hp
  rcases List.mem_append.1 hp with hp | hp
  · rcases List.mem_map.1 hp with ⟨k, _, rfl⟩
    exact rentEpoch_resolved h k
  · split_ifs at hp
    · cases hp
    · rcases List.mem_singleton.1 hp with rfl
      rfl

/-- A runtime that keeps rent epochs keeps them 0 over a whole run. -/
theorem noRentEpoch_run (hrt : KeepsRentEpoch rt) (h : StoreNoRentEpoch svm)
    (hrun : svm.run cr rt ixs accounts = some o) :
    NoRentEpoch o.context.transactionContext.accounts := by
  rcases run_eq_some hrun with ⟨trace, _, rfl⟩
  refine runInstructions_preserves
    (P := fun ic => NoRentEpoch ic.transactionContext.accounts) ?_ _ _ _
    (noRentEpoch_initialContext h)
  intro ic hic p hp
  rcases List.mem_mapIdx.1 hp with ⟨i, hi, rfl⟩
  have hkept := hrt ic.input i _ (List.getElem?_eq_getElem hi)
  exact hkept.trans (hic _ (List.getElem_mem hi))

theorem noRentEpoch_resultingAccounts (hrt : KeepsRentEpoch rt) (h : StoreNoRentEpoch svm)
    (hrun : svm.run cr rt ixs accounts = some o) :
    NoRentEpoch (svm.resultingAccounts accounts o) := by
  intro p hp
  rw [resultingAccounts_eq] at hp
  rcases List.mem_map.1 hp with ⟨q, hq, rfl⟩
  cases hfinal : o.context.transactionContext.findAccount q.1 with
  | none => simpa [finalAccount, hfinal] using noRentEpoch_mergedAccounts h q hq
  | some a =>
      have hmem : (q.1, a) ∈ o.context.transactionContext.accounts := HashMap.mem_of_firstOf hfinal
      simpa [finalAccount, hfinal] using noRentEpoch_run hrt h hrun _ hmem

/-- What is inserted with rent epoch 0 keeps the store so. -/
theorem StoreNoRentEpoch.insert (h : StoreNoRentEpoch svm) {a : SolanaAccount}
    (ha : a.rentEpoch = 0) (k : Pubkey) :
    StoreNoRentEpoch { svm with accounts := svm.accounts.insert k a } := by
  intro k' a' hlookup
  have hinsert := (HashMap.lookup_insert_eq svm.accounts k' k a).symm.trans hlookup
  split_ifs at hinsert
  · cases hinsert
    exact ha
  · exact h k' a' hinsert

theorem StoreNoRentEpoch.rewrite (h : StoreNoRentEpoch svm) {address : Pubkey}
    (hrewrite : RewritesData svm svm' address) : StoreNoRentEpoch svm' := by
  rcases hrewrite with rfl | ⟨acct, data, hlookup, rfl⟩
  · exact h
  · refine h.insert ?_ address
    exact h address acct hlookup

theorem StoreNoRentEpoch.commit (h : StoreNoRentEpoch svm)
    {resulting : List (Pubkey × SolanaAccount)} (hresulting : NoRentEpoch resulting) :
    StoreNoRentEpoch (svm.commitAccounts resulting) := by
  intro k a hlookup
  rw [commitAccounts, HashMap.lookup_insertAll] at hlookup
  rcases Option.or_eq_some_iff.1 hlookup with hlast | ⟨_, hstored⟩
  · exact hresulting _ (HashMap.mem_of_lastOf hlast)
  · exact h k a hstored

theorem storeNoRentEpoch_executeInner (hrt : KeepsRentEpoch rt) (h : StoreNoRentEpoch svm)
    (commit : Bool) :
    StoreNoRentEpoch (svm.executeInner cr rt ixs accounts commit).1 := by
  have hcall := executeInner_execution cr rt svm ixs accounts commit
  revert hcall
  generalize svm.executeInner cr rt ixs accounts commit = out
  intro hcall
  cases hcall with
  | panicked hrun => exact h
  | failed o e hrun hresult => exact h
  | succeeded o hrun hresult =>
      cases commit with
      | false => exact h
      | true => exact StoreNoRentEpoch.commit h (noRentEpoch_resultingAccounts hrt h hrun)

/-- Every operation keeps the rent epochs of the store 0. -/
theorem storeNoRentEpoch_operate (hrt : KeepsRentEpoch rt) (h : StoreNoRentEpoch svm)
    (op : Operation) : StoreNoRentEpoch (svm.operate cr rt op).1 := by
  cases op with
  | setAccount account => exact h.insert rfl _
  | airdrop pubkey lamports =>
      refine h.insert ?_ _
      cases svm.accounts.lookup pubkey with
      | none => rfl
      | some a => rfl
  | createAccount pubkey space owner => exact h.insert rfl _
  | execute ixs accounts commit => exact storeNoRentEpoch_executeInner hrt h commit
  | addProgram programId loaderKey elf =>
      simp only [operate, addProgram]
      cases svm.programCache.addProgram cr programId loaderKey elf with
      | none => exact h
      | some programCache => exact h
  | setTokenBalance address amount =>
      exact h.rewrite (rewritesData_setTokenBalance cr svm address amount)
  | setMintSupply address supply =>
      exact h.rewrite (rewritesData_setMintSupply cr svm address supply)
  -- The others leave the store alone.
  | _ => exact h

theorem storeNoRentEpoch_after (cr : Crates) (hrt : KeepsRentEpoch rt) (h : StoreNoRentEpoch svm)
    (draws : List Drawn) : StoreNoRentEpoch (svm.afterDrawn cr rt draws) :=
  Machine.after_preserves (m := drawnMachine cr rt) (P := StoreNoRentEpoch)
    (fun _ d hstate => storeNoRentEpoch_operate hrt hstate d.1) h draws

/-! ## Passing what was reported -/

/-- Distinct explicit accounts make a merged list with distinct keys. -/
theorem nodup_keys_mergedAccounts (svm : QuasarSvm)
    (hdistinct : (accounts.map Account.address).Nodup) :
    ((svm.mergedAccounts accounts).map Prod.fst).Nodup := by
  rw [mergedAccounts, mergeAccounts, List.map_append]
  refine List.Nodup.append ?_ ?_ ?_
  · exact (HashMap.nodup_keys_toPairs svm.accounts).sublist (List.filter_sublist.map Prod.fst)
  · rw [map_fst_toPair]
    exact hdistinct
  · intro k hk hk'
    rcases List.mem_map.1 hk with ⟨p, hp, rfl⟩
    exact absurd hk' (by simpa using (List.mem_filter.1 hp).2)

/-- Accounts with rent epoch 0 pass through `Account` unchanged. -/
theorem map_toPair_pairsToSvmAccounts {l : List (Pubkey × SolanaAccount)} (h : NoRentEpoch l) :
    (pairsToSvmAccounts l).map Account.toPair = l := by
  rw [pairsToSvmAccounts, List.map_map]
  refine (List.map_congr_left ?_).trans (List.map_id l)
  intro p hp
  have hepoch := h p hp
  rcases p with ⟨k, a⟩
  rcases a with ⟨lamports, data, owner, executable, rentEpoch⟩
  cases hepoch
  rfl

/-- Passing accounts that are stored as they are merges nothing else. -/
theorem sameMerge_passStored (svm : QuasarSvm)
    (hstored : ∀ p ∈ accounts.map Account.toPair, svm.accounts.lookup p.1 = some p.2) :
    SameMerge svm svm accounts [] := by
  have hor : ∀ (k : Pubkey) (found : Option SolanaAccount),
      (∀ a, found = some a → (k, a) ∈ accounts.map Account.toPair) →
        svm.accounts.lookup k = found.or (svm.accounts.lookup k) := by
    intro k found hfound
    cases found with
    | none => rfl
    | some a => exact hstored (k, a) (hfound a rfl)
  have hfirst : ∀ k, HashMap.firstOf k (svm.mergedAccounts []) =
      HashMap.firstOf k (svm.mergedAccounts accounts) := by
    intro k
    rw [firstOf_mergedAccounts_nil, firstOf_mergedAccounts]
    exact hor k _ fun a ha => HashMap.mem_of_firstOf ha
  have hlast : ∀ k, HashMap.lastOf k (svm.mergedAccounts []) =
      HashMap.lastOf k (svm.mergedAccounts accounts) := by
    intro k
    rw [lastOf_mergedAccounts_nil, lastOf_mergedAccounts]
    exact hor k _ fun a ha => HashMap.mem_of_lastOf ha
  exact ⟨⟨rfl, rfl, rfl, hfirst⟩, hlast⟩

/-- After a successful call the next one merges the same with the reported accounts and with none. -/
theorem sameMerge_reported (hrt : KeepsRentEpoch rt) (h : StoreNoRentEpoch svm)
    (hdistinct : (accounts.map Account.address).Nodup) {r : ExecutionResult}
    (hr : (svm.processInstructionChain cr rt ixs accounts).2 = .ok r)
    (hok : r.rawResult = .ok ()) :
    SameMerge (svm.processInstructionChain cr rt ixs accounts).1
      (svm.processInstructionChain cr rt ixs accounts).1 r.accounts [] := by
  rcases exists_run_of_ok hr hok with ⟨o, hrun, hresult⟩
  have hcall := processInstructionChain_of_ok hrun hresult
  rw [hcall] at hr ⊢
  cases hr
  refine sameMerge_passStored _ ?_
  have hpairs : (report cr (svm.mergedAccounts accounts) (svm.resultingAccounts accounts o)
      (svm.afterRun o).drainLogs o).accounts.map Account.toPair =
        svm.resultingAccounts accounts o :=
    map_toPair_pairsToSvmAccounts (noRentEpoch_resultingAccounts hrt h hrun)
  rw [hpairs]
  -- Each address was merged once, so the commit leaves what was reported under it.
  have hnodup : ((svm.resultingAccounts accounts o).map Prod.fst).Nodup := by
    simpa [resultingAccounts_eq, Function.comp_def] using nodup_keys_mergedAccounts svm hdistinct
  intro p hp
  have hlast : HashMap.lastOf p.1 (svm.resultingAccounts accounts o) = some p.2 := by
    rw [HashMap.lastOf_eq_firstOf_of_nodup hnodup]
    exact (HashMap.firstOf_eq_some_iff_of_nodup hnodup).2 hp
  rw [commitAccounts, HashMap.lookup_insertAll, hlast, Option.some_or]

theorem keepsRentEpoch_idle : KeepsRentEpoch Reference.idleRuntime := by
  intro inp i p hp
  simp [Reference.idleRuntime, hp]

/-- An account with one lamport. -/
def oneLamport (k : Pubkey) : Account :=
  Account.fromPair k { SolanaAccount.default with lamports := 1 }

end QuasarSvm
end Svm
end Quasar
