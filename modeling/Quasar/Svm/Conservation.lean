import Quasar.Lib.Ledger
import Quasar.Svm.Reference
import Quasar.Svm.Resolution

/-!
# Conservation — which writes of a transaction reach the account store

The accounts that a transaction runs on come from the keys of its message; the accounts that are
reported and committed come from the merged list of stored and explicit accounts.  A write survives
exactly when its key is in both.
-/

namespace Quasar
namespace Svm
namespace QuasarSvm

open Lib

variable {cr : Crates} {rt : Runtime} {svm : QuasarSvm} {ixs : List Instruction}
  {accounts : List Account} {o : MessageOutcome} {r : ExecutionResult} {k : Pubkey}

/-! ## Writes -/

/-- The engine tells the accounts apart: by lamports, data, owner or the executable flag. -/
def Differs (a b : SolanaAccount) : Prop :=
  a.lamports ≠ b.lamports ∨ a.data ≠ b.data ∨ a.owner ≠ b.owner ∨ a.executable ≠ b.executable

/-- The run ends with another account under `k` than it started with. -/
def Written (cr : Crates) (svm : QuasarSvm) (ixs : List Instruction) (accounts : List Account)
    (o : MessageOutcome) (k : Pubkey) (final : SolanaAccount) : Prop :=
  ∃ start, (svm.initialContext cr ixs accounts).findAccount k = some start ∧
    o.context.transactionContext.findAccount k = some final ∧ Differs start final

/-- No write of a successful call is lost: it is reported, and the store holds it afterwards. -/
def KeepsWrites (cr : Crates) (rt : Runtime) (svm : QuasarSvm) (ixs : List Instruction)
    (accounts : List Account) : Prop :=
  ∀ r o, (svm.processInstructionChain cr rt ixs accounts).2 = .ok r → r.rawResult = .ok () →
    svm.run cr rt ixs accounts = some o → ∀ k final, k ≠ cr.instructionsSysvarId →
      Written cr svm ixs accounts o k final →
        r.account k = some (Account.fromPair k final) ∧
          (svm.processInstructionChain cr rt ixs accounts).1.getAccount k =
            some (Account.fromPair k final)

/-! ## Resulting accounts -/

theorem keys_resultingAccounts (svm : QuasarSvm) (accounts : List Account) (o : MessageOutcome) :
    (svm.resultingAccounts accounts o).map Prod.fst =
      (svm.mergedAccounts accounts).map Prod.fst := by
  simp [resultingAccounts, deconstructResultingAccounts, Function.comp_def]

/-- Every resulting pair of a transaction key holds the transaction's final account. -/
theorem value_resultingAccounts {final : SolanaAccount}
    (hfinal : o.context.transactionContext.findAccount k = some final) :
    ∀ p ∈ svm.resultingAccounts accounts o, p.1 = k → p.2 = final := by
  intro p hp hk
  rcases List.mem_map.1 hp with ⟨q, _, rfl⟩
  have hq : q.1 = k := hk
  simp [hq, hfinal]

/-- A supplied key of the transaction is reported with its final account. -/
theorem account_report {merged : List (Pubkey × SolanaAccount)} {logs : List String}
    {final : SolanaAccount} (hfinal : o.context.transactionContext.findAccount k = some final)
    (hmem : k ∈ (svm.mergedAccounts accounts).map Prod.fst) :
    (report cr merged (svm.resultingAccounts accounts o) logs o).account k =
      some (Account.fromPair k final) := by
  have hlisted : k ∈ (report cr merged (svm.resultingAccounts accounts o) logs o).accounts.map
      Account.address := by
    rw [← keys_resultingAccounts svm accounts o] at hmem
    simpa [report, pairsToSvmAccounts, Function.comp_def] using hmem
  -- The report may list an address twice, but every listing holds the final account.
  rcases HashMap.exists_find_eq_some hlisted with ⟨a, hfind, ha, hak⟩
  rcases List.mem_map.1 ha with ⟨p, hp, rfl⟩
  have hpk : p.1 = k := by simpa using hak
  have hval := value_resultingAccounts hfinal p hp hpk
  calc (report cr merged (svm.resultingAccounts accounts o) logs o).account k
      = some (Account.fromPair p.1 p.2) := hfind
    _ = some (Account.fromPair k final) := by
        simp only [hpk, hval]

/-- A supplied key of the transaction holds its final account after the commit. -/
theorem getAccount_commit {final : SolanaAccount}
    (hfinal : o.context.transactionContext.findAccount k = some final)
    (hmem : k ∈ (svm.mergedAccounts accounts).map Prod.fst) (svm' : QuasarSvm) :
    (svm'.commitAccounts (svm.resultingAccounts accounts o)).getAccount k =
      some (Account.fromPair k final) := by
  rw [← keys_resultingAccounts svm accounts o] at hmem
  have hlast := HashMap.lastOf_eq_some hmem (value_resultingAccounts hfinal)
  simp [getAccount, commitAccounts, HashMap.lookup_insertAll, hlast]

/-- What is reported under an address was supplied under it. -/
theorem supplied_of_account {merged : List (Pubkey × SolanaAccount)} {logs : List String}
    {a : Account}
    (h : (report cr merged (svm.resultingAccounts accounts o) logs o).account k = some a) :
    Supplied svm accounts k := by
  rcases HashMap.of_find_eq_some h with ⟨ha, hak⟩
  rcases List.mem_map.1 ha with ⟨p, hp, rfl⟩
  rw [← mem_mergedKeys_iff, ← keys_resultingAccounts svm accounts o]
  exact List.mem_map.2 ⟨p, hp, by simpa using hak⟩

/-! ## The exact condition -/

/-- No write is lost exactly when every written key was supplied. -/
theorem keepsWrites_iff :
    KeepsWrites cr rt svm ixs accounts ↔
      ∀ o, svm.run cr rt ixs accounts = some o → o.rawResult = .ok () →
        ∀ k final, k ≠ cr.instructionsSysvarId → Written cr svm ixs accounts o k final →
          Supplied svm accounts k := by
  constructor
  · intro h o hrun hok k final hk hwritten
    have hcall := processInstructionChain_of_ok hrun hok
    have hkept := h _ o (congrArg Prod.snd hcall) hok hrun k final hk hwritten
    exact supplied_of_account hkept.1
  · intro h r o hr hrok hrun k final hk hwritten
    rcases hwritten with ⟨start, hstart, hfinal, hdiff⟩
    have hok : o.rawResult = .ok () :=
      ((executeInner_execution cr _ svm ixs accounts true).rawResult_eq hr hrun).symm.trans hrok
    have hmem := mem_mergedKeys_iff.2 (h o hrun hok k final hk ⟨start, hstart, hfinal, hdiff⟩)
    have hcall := processInstructionChain_of_ok hrun hok
    rw [hcall] at hr ⊢
    cases hr
    exact ⟨account_report hfinal hmem, getAccount_commit hfinal hmem _⟩

/-! ## The condition for every runtime at once -/

/-- An account with one lamport more. -/
def bump (a : SolanaAccount) : SolanaAccount :=
  { a with lamports := a.lamports + 1 }

theorem differs_bump (a : SolanaAccount) : Differs a (bump a) := by
  refine Or.inl ?_
  simp [bump]

/-- A runtime whose every instruction succeeds and leaves each account one lamport above `start`. -/
def bumpingRuntime (start : List (Pubkey × SolanaAccount)) : Runtime :=
  { prepareTopLevelInstructions := fun _ _ => .ok InstructionTrace.empty
    processInstruction := fun inp =>
      { result := .ok ()
        computeUnitsConsumed := 0
        accountAfter := fun i => ((start[i]?).map fun p => bump p.2).getD SolanaAccount.default
        returnData := (Pubkey.default, [])
        trace := InstructionTrace.empty
        storedPrograms := []
        computeMeter := inp.computeMeter
        logCollector := inp.logCollector
        executeUs := inp.executeUs } }

theorem accountsAfter_bump {start current : List (Pubkey × SolanaAccount)}
    (hkeys : current.map Prod.fst = start.map Prod.fst) :
    InvokeContext.accountsAfter current
        (fun i => ((start[i]?).map fun p => bump p.2).getD SolanaAccount.default) =
      start.map fun p => (p.1, bump p.2) := by
  have hlen : current.length = start.length := by
    simpa using congrArg List.length hkeys
  refine List.ext_getElem (by simp [InvokeContext.accountsAfter, hlen]) ?_
  intro i h₁ h₂
  have hi : i < start.length := by simpa using h₂
  have hc : i < current.length := hlen ▸ hi
  have hkey : current[i].1 = start[i].1 := by
    have := List.getElem_of_eq hkeys (i := i) (by simpa [hlen] using hi)
    simpa using this
  simp [InvokeContext.accountsAfter, hi, hkey]

/-- Where at least one instruction runs, the bumping runtime succeeds and changes every account. -/
theorem run_bumpingRuntime (hne : (svm.message cr ixs accounts).message.instructions ≠ []) :
    ∃ o, svm.run cr (bumpingRuntime (svm.initialContext cr ixs accounts).accounts) ixs accounts =
        some o ∧
      o.rawResult = .ok () ∧
      o.context.transactionContext.accounts =
        (svm.initialContext cr ixs accounts).accounts.map fun p => (p.1, bump p.2) := by
  refine ⟨_, run_of_prepare rfl, rawResult_runInstructions (fun _ => rfl) _ _ _, ?_⟩
  rcases List.exists_cons_of_ne_nil hne with ⟨ix, rest, hcons⟩
  rw [hcons]
  -- The first instruction bumps; every later one finds the same keys and bumps again.
  refine runInstructions_preserves
    (P := fun ic => ic.transactionContext.accounts =
      (svm.initialContext cr ixs accounts).accounts.map fun p => (p.1, bump p.2)) ?_ rest _ _ ?_
  · intro ic hic
    refine accountsAfter_bump ?_
    rw [hic]
    simp [Function.comp_def]
  · exact accountsAfter_bump rfl

/-- Without instructions nothing is written. -/
theorem not_written_of_nil (hnil : (svm.message cr ixs accounts).message.instructions = [])
    (hrun : svm.run cr rt ixs accounts = some o) (final : SolanaAccount) :
    ¬ Written cr svm ixs accounts o k final := by
  intro hwritten
  rcases hwritten with ⟨start, hstart, hfinal, hdiff⟩
  rcases run_eq_some hrun with ⟨trace, _, rfl⟩
  rw [hnil] at hfinal
  have hsame : some start = some final := hstart.symm.trans hfinal
  cases hsame
  simp [Differs] at hdiff

/-- No runtime can lose a write exactly when every key of the transaction was supplied, unless no
instruction runs at all. -/
theorem keepsWrites_forall_iff :
    (∀ rt, KeepsWrites cr rt svm ixs accounts) ↔
      (svm.message cr ixs accounts).message.instructions = [] ∨
        ∀ k ∈ (svm.initialContext cr ixs accounts).accounts.map Prod.fst,
          k ≠ cr.instructionsSysvarId → Supplied svm accounts k := by
  constructor
  · intro h
    by_cases hnil : (svm.message cr ixs accounts).message.instructions = []
    · exact Or.inl hnil
    · refine Or.inr ?_
      intro k hk hne
      -- The bumping runtime writes every key, so each of them must be supplied.
      rcases run_bumpingRuntime hnil with ⟨o, hrun, hok, hfinal⟩
      rcases HashMap.exists_find_eq_some hk with ⟨p, hfind, _, _⟩
      have hstart : (svm.initialContext cr ixs accounts).findAccount k = some p.2 :=
        congrArg (Option.map Prod.snd) hfind
      have hbumped : o.context.transactionContext.findAccount k = some (bump p.2) := by
        rw [TransactionContext.findAccount, hfinal, List.find?_map]
        exact congrArg (fun found => (found.map fun p => (p.1, bump p.2)).map Prod.snd) hfind
      exact keepsWrites_iff.1 (h _) o hrun hok k (bump p.2) hne
        ⟨p.2, hstart, hbumped, differs_bump p.2⟩
  · intro h rt
    rw [keepsWrites_iff]
    intro o hrun hok k final hne hwritten
    rcases h with hnil | hall
    · exact absurd hwritten (not_written_of_nil hnil hrun final)
    · rcases hwritten with ⟨start, hstart, _, _⟩
      refine hall k ?_ hne
      rcases Option.map_eq_some_iff.1 hstart with ⟨p, hp, _⟩
      exact List.mem_map.2 ⟨p, HashMap.of_find_eq_some hp⟩

/-! ## Lamports -/

/-- The lamports of all stored accounts. -/
def storeTotal (svm : QuasarSvm) : ℕ :=
  HashMap.total (fun a => a.lamports.toNat) svm.accounts

/-- The lamports of a transaction's accounts. -/
def transactionTotal (ctx : TransactionContext) : ℕ :=
  (ctx.accounts.map fun p => p.2.lamports.toNat).sum

/-- The VM with the explicit accounts put into its store: the state before the call. -/
def withExplicit (svm : QuasarSvm) (accounts : List Account) : QuasarSvm :=
  svm.commitAccounts (svm.mergedAccounts accounts)

/-- Explicit accounts of one address hold the same lamports. -/
def AgreeOnLamports (accounts : List Account) : Prop :=
  ∀ a ∈ accounts, ∀ b ∈ accounts, a.address = b.address → a.lamports = b.lamports

/-- Every lamport change of the run is under a supplied key. -/
def ChangesSupplied (cr : Crates) (svm : QuasarSvm) (ixs : List Instruction)
    (accounts : List Account) (o : MessageOutcome) : Prop :=
  ∀ pair ∈ (svm.initialContext cr ixs accounts).accounts.zip
      o.context.transactionContext.accounts,
    pair.1.2.lamports ≠ pair.2.2.lamports → Supplied svm accounts pair.1.1

theorem merged_lamports_agree (h : AgreeOnLamports accounts) :
    ∀ p ∈ svm.mergedAccounts accounts, ∀ q ∈ svm.mergedAccounts accounts,
      p.1 = q.1 → p.2.lamports = q.2.lamports := by
  intro p hp q hq hpq
  rcases List.mem_append.1 hp with hp | hp
  · rcases List.mem_append.1 hq with hq | hq
    · -- Two stored accounts under one key are one account.
      have hp' := HashMap.mem_toPairs_iff.1 (List.mem_filter.1 hp).1
      have hq' := HashMap.mem_toPairs_iff.1 (List.mem_filter.1 hq).1
      rw [hpq, hq'] at hp'
      exact congrArg SolanaAccount.lamports (Option.some.inj hp').symm
    · -- A stored account that is passed explicitly was filtered out.
      have hnot : p.1 ∉ (accounts.map Account.toPair).map Prod.fst := by
        simpa using (List.mem_filter.1 hp).2
      exact absurd (hpq ▸ List.mem_map.2 ⟨q, hq, rfl⟩) hnot
  · rcases List.mem_append.1 hq with hq | hq
    · have hnot : q.1 ∉ (accounts.map Account.toPair).map Prod.fst := by
        simpa using (List.mem_filter.1 hq).2
      exact absurd (hpq ▸ List.mem_map.2 ⟨p, hp, rfl⟩) hnot
    · rcases List.mem_map.1 hp with ⟨a, ha, rfl⟩
      rcases List.mem_map.1 hq with ⟨b, hb, rfl⟩
      exact h a ha b hb hpq

/-- The transaction starts a supplied key from an account of the merged list. -/
theorem initial_of_supplied {p : Pubkey × SolanaAccount}
    (hp : p ∈ (svm.initialContext cr ixs accounts).accounts)
    (hmem : p.1 ∈ (svm.mergedAccounts accounts).map Prod.fst) :
    p ∈ svm.mergedAccounts accounts := by
  have hresolve : ∀ fallbacks k, k ∈ (svm.mergedAccounts accounts).map Prod.fst →
      (k, svm.resolveAccount cr (svm.mergedAccounts accounts) fallbacks k) ∈
        svm.mergedAccounts accounts := by
    intro fallbacks k hk
    rcases HashMap.exists_find_eq_some hk with ⟨q, hfind, hq, rfl⟩
    simpa only [resolveAccount, hfind] using hq
  change p ∈ (svm.compileAccounts cr ixs (svm.mergedAccounts accounts)).2 at hp
  unfold compileAccounts at hp
  by_cases hsupplied : cr.instructionsSysvarId ∈ (svm.mergedAccounts accounts).map Prod.fst
  · simp only [hsupplied, if_true] at hp
    rcases List.mem_map.1 hp with ⟨k, _, rfl⟩
    exact hresolve _ k hmem
  · simp only [hsupplied, if_false] at hp
    rcases List.mem_append.1 hp with hp | hp
    · rcases List.mem_map.1 hp with ⟨k, _, rfl⟩
      exact hresolve _ k hmem
    · -- The appended sysvar was not supplied.
      rcases List.mem_singleton.1 hp with rfl
      exact absurd hmem hsupplied

/-- With distinct message keys the transaction has each supplied key at most once. -/
theorem nodup_supplied_keys (hkeys : (cr.messageNew ixs).accountKeys.Nodup) :
    (((svm.initialContext cr ixs accounts).accounts.map Prod.fst).filter
      fun k => k ∈ (svm.mergedAccounts accounts).map Prod.fst).Nodup := by
  change ((((svm.compileAccounts cr ixs (svm.mergedAccounts accounts)).2).map Prod.fst).filter
      fun k => k ∈ (svm.mergedAccounts accounts).map Prod.fst).Nodup
  unfold compileAccounts
  by_cases hsupplied : cr.instructionsSysvarId ∈ (svm.mergedAccounts accounts).map Prod.fst
  · simp only [hsupplied, if_true, List.map_map, Function.comp_def, List.map_id']
    exact hkeys.filter _
  · -- The appended sysvar is filtered out, since it was not supplied.
    have hdrop : ([cr.instructionsSysvarId].filter
        fun k => k ∈ (svm.mergedAccounts accounts).map Prod.fst) = [] := by
      simp [hsupplied]
    simp only [hsupplied, if_false, List.map_append, List.map_map, Function.comp_def, List.map_id',
      List.filter_append]
    change (_ ++ ([cr.instructionsSysvarId].filter
      fun k => k ∈ (svm.mergedAccounts accounts).map Prod.fst)).Nodup
    rw [hdrop, List.append_nil]
    exact hkeys.filter _

/-- The final account under a supplied key is the only entry of that key. -/
theorem findAccount_of_mem {ctx : TransactionContext} {p : Pubkey × SolanaAccount}
    {keys : List Pubkey} (hnodup : ((ctx.accounts.map Prod.fst).filter fun k => k ∈ keys).Nodup)
    (hp : p ∈ ctx.accounts) (hmem : p.1 ∈ keys) : ctx.findAccount p.1 = some p.2 := by
  have hlisted : p.1 ∈ ctx.accounts.map Prod.fst := List.mem_map.2 ⟨p, hp, rfl⟩
  rcases HashMap.exists_find_eq_some hlisted with ⟨q, hfind, hq, hqk⟩
  have hmap : (ctx.accounts.filter fun q => q.1 ∈ keys).map Prod.fst =
      (ctx.accounts.map Prod.fst).filter fun k => k ∈ keys := by
    rw [List.filter_map]
    rfl
  rw [← hmap] at hnodup
  have hpf : p ∈ ctx.accounts.filter fun q => q.1 ∈ keys :=
    List.mem_filter.2 ⟨hp, by simpa using hmem⟩
  have hqf : q ∈ ctx.accounts.filter fun q => q.1 ∈ keys :=
    List.mem_filter.2 ⟨hq, by simpa [hqk] using hmem⟩
  -- Among the entries of these keys a key occurs once.
  have heq : q = p := List.inj_on_of_nodup_map hnodup hqf hpf hqk
  calc ctx.findAccount p.1 = some q.2 := congrArg (Option.map Prod.snd) hfind
    _ = some p.2 := by rw [heq]

/-- The lamports stored under a key. -/
def lamportsAt (svm : QuasarSvm) (k : Pubkey) : ℕ :=
  (svm.accounts.lookup k).elim 0 fun a => a.lamports.toNat

theorem lamportsAt_of_lookup {a : SolanaAccount} (h : svm.accounts.lookup k = some a) :
    svm.lamportsAt k = a.lamports.toNat := by
  simp [lamportsAt, h]

/-- After a commit a listed key holds the lamports of one of its listed accounts. -/
theorem lamportsAt_commit {resulting : List (Pubkey × SolanaAccount)}
    (hmem : k ∈ resulting.map Prod.fst) (svm : QuasarSvm) :
    ∃ a, (k, a) ∈ resulting ∧ (svm.commitAccounts resulting).lamportsAt k = a.lamports.toNat := by
  rcases HashMap.exists_lastOf hmem with ⟨a, hlast, ha⟩
  refine ⟨a, ha, lamportsAt_of_lookup ?_⟩
  simp [commitAccounts, HashMap.lookup_insertAll, hlast]

theorem lamportsAt_withExplicit (hagree : AgreeOnLamports accounts)
    {p : Pubkey × SolanaAccount} (hp : p ∈ svm.mergedAccounts accounts) :
    (svm.withExplicit accounts).lamportsAt p.1 = p.2.lamports.toNat := by
  rcases lamportsAt_commit (List.mem_map.2 ⟨p, hp, rfl⟩) svm with ⟨a, ha, hat⟩
  have hsame := merged_lamports_agree hagree (p.1, a) ha p hp rfl
  rw [withExplicit, hat]
  exact congrArg UInt64.toNat hsame

/-- The lamports of a transaction's accounts, entry by entry. -/
def lamportEntries (ctx : TransactionContext) : List (Pubkey × ℕ) :=
  ctx.accounts.map fun p => (p.1, p.2.lamports.toNat)

@[simp] theorem length_lamportEntries (ctx : TransactionContext) :
    (lamportEntries ctx).length = ctx.accounts.length := by
  simp [lamportEntries]

theorem keys_lamportEntries (ctx : TransactionContext) :
    (lamportEntries ctx).map Prod.fst = ctx.accounts.map Prod.fst := by
  simp [lamportEntries, Function.comp_def]

theorem sum_lamportEntries (ctx : TransactionContext) :
    ((lamportEntries ctx).map Prod.snd).sum = transactionTotal ctx := by
  simp [lamportEntries, transactionTotal, Function.comp_def]

/-- The lamport changes of a run, entry by entry. -/
def lamportChanges (cr : Crates) (svm : QuasarSvm) (ixs : List Instruction)
    (accounts : List Account) (o : MessageOutcome) : List (Pubkey × ℤ) :=
  Ledger.changes (lamportEntries (svm.initialContext cr ixs accounts))
    (lamportEntries o.context.transactionContext)

theorem length_of_run (hrun : svm.run cr rt ixs accounts = some o) :
    o.context.transactionContext.accounts.length =
      (svm.initialContext cr ixs accounts).accounts.length := by
  simpa using congrArg List.length (keys_of_run hrun)

/-- A listed change is that of one entry, before and after under one key. -/
theorem mem_lamportChanges (hrun : svm.run cr rt ixs accounts = some o) {c : Pubkey × ℤ}
    (hc : c ∈ lamportChanges cr svm ixs accounts o) :
    ∃ p q, (p, q) ∈ (svm.initialContext cr ixs accounts).accounts.zip
        o.context.transactionContext.accounts ∧ q.1 = p.1 ∧
      c = (p.1, (q.2.lamports.toNat : ℤ) - p.2.lamports.toNat) := by
  unfold lamportChanges Ledger.changes lamportEntries at hc
  rw [List.zip_map, List.map_map] at hc
  rcases List.mem_map.1 hc with ⟨⟨p, q⟩, hpq, rfl⟩
  refine ⟨p, q, hpq, ?_, rfl⟩
  -- Both entries stand at one index, and a run keeps the key of every index.
  rcases List.mem_iff_getElem.1 hpq with ⟨i, hi, heq⟩
  rw [List.getElem_zip] at heq
  have hi' : i < o.context.transactionContext.accounts.length := List.lt_length_right_of_zip hi
  have hkey := List.getElem_of_eq (keys_of_run hrun) (i := i) (by simpa using hi')
  cases heq
  simpa using hkey

theorem keys_lamportChanges (hrun : svm.run cr rt ixs accounts = some o) :
    (lamportChanges cr svm ixs accounts o).map Prod.fst =
      (svm.initialContext cr ixs accounts).accounts.map Prod.fst := by
  have hlen : (lamportEntries o.context.transactionContext).length =
      (lamportEntries (svm.initialContext cr ixs accounts)).length := by
    simpa using length_of_run hrun
  exact (Ledger.keys_changes hlen).trans (keys_lamportEntries _)

/-- A runtime that conserves the transaction's lamports changes them by 0 in total. -/
theorem sum_lamportChanges (hrun : svm.run cr rt ixs accounts = some o)
    (hsum : transactionTotal o.context.transactionContext =
      transactionTotal (svm.initialContext cr ixs accounts)) :
    ((lamportChanges cr svm ixs accounts o).map Prod.snd).sum = 0 := by
  have hlen : (lamportEntries o.context.transactionContext).length =
      (lamportEntries (svm.initialContext cr ixs accounts)).length := by
    simpa using length_of_run hrun
  calc ((lamportChanges cr svm ixs accounts o).map Prod.snd).sum
      = (transactionTotal o.context.transactionContext : ℤ) -
          transactionTotal (svm.initialContext cr ixs accounts) := by
        simpa only [lamportChanges, sum_lamportEntries] using Ledger.sum_changes hlen
    _ = 0 := by rw [hsum, sub_self]

/-- What a supplied key's stored lamports change by in a committed call. -/
def storeChange (svm : QuasarSvm) (accounts : List Account) (o : MessageOutcome) (k : Pubkey) : ℤ :=
  (((svm.afterRun o).commitAccounts (svm.resultingAccounts accounts o)).lamportsAt k : ℤ) -
    (svm.withExplicit accounts).lamportsAt k

/-- A listed change of a supplied key is the change of its stored lamports. -/
theorem storeChange_of_listed (hkeys : (cr.messageNew ixs).accountKeys.Nodup)
    (hagree : AgreeOnLamports accounts) (hrun : svm.run cr rt ixs accounts = some o)
    {c : Pubkey × ℤ} (hc : c ∈ lamportChanges cr svm ixs accounts o)
    (hmem : c.1 ∈ (svm.mergedAccounts accounts).map Prod.fst) :
    storeChange svm accounts o c.1 = c.2 := by
  rcases mem_lamportChanges hrun hc with ⟨p, q, hpq, hkey, rfl⟩
  -- Before the call the key holds what the transaction started it from.
  have hp : p ∈ (svm.initialContext cr ixs accounts).accounts := (List.of_mem_zip hpq).1
  have hq : q ∈ o.context.transactionContext.accounts := (List.of_mem_zip hpq).2
  have hbefore := lamportsAt_withExplicit hagree (initial_of_supplied hp hmem)
  have hnodup : ((o.context.transactionContext.accounts.map Prod.fst).filter
      fun k => k ∈ (svm.mergedAccounts accounts).map Prod.fst).Nodup := by
    simpa only [keys_of_run hrun] using nodup_supplied_keys hkeys
  have hfinal := findAccount_of_mem hnodup hq (hkey ▸ hmem)
  rw [hkey] at hfinal
  -- After it the key holds what was committed, and all that was committed under it is equal.
  have hres : p.1 ∈ (svm.resultingAccounts accounts o).map Prod.fst := by
    simpa only [keys_resultingAccounts] using hmem
  rcases lamportsAt_commit hres (svm.afterRun o) with ⟨a, ha, hafter⟩
  have hvalue : a = q.2 := value_resultingAccounts hfinal _ ha rfl
  rw [storeChange, hbefore, hafter, hvalue]

/-- A supplied key that the transaction does not have keeps its lamports. -/
theorem storeChange_of_unlisted (hagree : AgreeOnLamports accounts)
    (hrun : svm.run cr rt ixs accounts = some o)
    (hmem : k ∈ (svm.mergedAccounts accounts).map Prod.fst)
    (hnot : k ∉ (lamportChanges cr svm ixs accounts o).map Prod.fst) :
    storeChange svm accounts o k = 0 := by
  rw [keys_lamportChanges hrun, ← keys_of_run hrun] at hnot
  have hres : k ∈ (svm.resultingAccounts accounts o).map Prod.fst := by
    simpa only [keys_resultingAccounts] using hmem
  rcases lamportsAt_commit hres (svm.afterRun o) with ⟨a, ha, hafter⟩
  -- The transaction knows nothing of the key, so the merged account is committed as it was.
  rcases List.mem_map.1 ha with ⟨p, hp, heq⟩
  have hpk : p.1 = k := congrArg Prod.fst heq
  have hnone : o.context.transactionContext.findAccount k = none := by
    unfold TransactionContext.findAccount
    have hfind : o.context.transactionContext.accounts.find? (fun p => p.1 = k) = none :=
      HashMap.find_eq_none_iff.2 hnot
    exact Option.map_eq_none_iff.2 hfind
  have hsame : a = p.2 := by
    have hvalue := congrArg Prod.snd heq
    simpa [hpk, hnone] using hvalue.symm
  have hbefore := lamportsAt_withExplicit hagree hp
  rw [hpk] at hbefore
  rw [storeChange, hbefore, hafter, hsame, sub_self]

/-- The store before the call has the supplied keys. -/
theorem mem_keySet_withExplicit :
    k ∈ HashMap.keySet (svm.withExplicit accounts).accounts ↔
      k ∈ (svm.mergedAccounts accounts).map Prod.fst := by
  rw [HashMap.mem_keySet_iff, withExplicit, commitAccounts, HashMap.mem_insertAll_iff]
  constructor
  · intro h
    rcases h with h | h
    · exact h
    · have hsome := AList.lookup_isSome.2 h
      exact mem_mergedKeys_iff.2 (Or.inl (by simpa [getAccount] using hsome))
  · intro h
    exact Or.inl h

/-- So has the store after it. -/
theorem keySet_commit (svm : QuasarSvm) (accounts : List Account) (o : MessageOutcome) :
    HashMap.keySet ((svm.afterRun o).commitAccounts (svm.resultingAccounts accounts o)).accounts =
      HashMap.keySet (svm.withExplicit accounts).accounts := by
  ext k
  simp only [HashMap.mem_keySet_iff, commitAccounts, withExplicit, HashMap.mem_insertAll_iff,
    keys_resultingAccounts, accounts_afterRun]

/-- The stored changes of all keys add up to the listed changes, when every listed change is under
a supplied key. -/
theorem sum_storeChange (hkeys : (cr.messageNew ixs).accountKeys.Nodup)
    (hagree : AgreeOnLamports accounts) (hrun : svm.run cr rt ixs accounts = some o)
    (hsupplied : ChangesSupplied cr svm ixs accounts o) :
    ∑ k ∈ HashMap.keySet (svm.withExplicit accounts).accounts, storeChange svm accounts o k =
      ((lamportChanges cr svm ixs accounts o).map Prod.snd).sum := by
  refine Ledger.sum_observed ?_ ?_ ?_ ?_
  · have hfilter : ((lamportChanges cr svm ixs accounts o).filter
        fun c => c.1 ∈ HashMap.keySet (svm.withExplicit accounts).accounts).map Prod.fst =
          ((svm.initialContext cr ixs accounts).accounts.map Prod.fst).filter
            fun k => k ∈ (svm.mergedAccounts accounts).map Prod.fst := by
      rw [← keys_lamportChanges hrun, List.filter_map]
      refine congrArg _ (List.filter_congr ?_)
      intro c _
      simp only [mem_keySet_withExplicit, Function.comp_apply]
    rw [hfilter]
    exact nodup_supplied_keys hkeys
  · intro c hc hk
    exact storeChange_of_listed hkeys hagree hrun hc (mem_keySet_withExplicit.1 hk)
  · intro k hk hnot
    exact storeChange_of_unlisted hagree hrun (mem_keySet_withExplicit.1 hk) hnot
  · -- A change under a key that was not supplied would be lost, so there must be none.
    intro c hc hk
    rcases mem_lamportChanges hrun hc with ⟨p, q, hpq, _, rfl⟩
    by_cases hsame : p.2.lamports = q.2.lamports
    · rw [hsame, sub_self]
    · have hkey := mem_mergedKeys_iff.2 (hsupplied (p, q) hpq hsame)
      exact absurd (mem_keySet_withExplicit.2 hkey) hk

/-- The lamports of the store are conserved by a successful call when the runtime conserves those of
the transaction and changes them under supplied keys only. -/
theorem storeTotal_conserved (hkeys : (cr.messageNew ixs).accountKeys.Nodup)
    (hagree : AgreeOnLamports accounts) (hrun : svm.run cr rt ixs accounts = some o)
    (hok : o.rawResult = .ok ()) (hsupplied : ChangesSupplied cr svm ixs accounts o)
    (hsum : transactionTotal o.context.transactionContext =
      transactionTotal (svm.initialContext cr ixs accounts)) :
    (svm.processInstructionChain cr rt ixs accounts).1.storeTotal =
      (svm.withExplicit accounts).storeTotal := by
  have hchange := sum_storeChange hkeys hagree hrun hsupplied
  rw [sum_lamportChanges hrun hsum] at hchange
  simp only [storeChange] at hchange
  rw [Finset.sum_sub_distrib, sub_eq_zero] at hchange
  rw [processInstructionChain_of_ok hrun hok]
  calc ((svm.afterRun o).commitAccounts (svm.resultingAccounts accounts o)).storeTotal
      = ∑ k ∈ HashMap.keySet (svm.withExplicit accounts).accounts,
          ((svm.afterRun o).commitAccounts (svm.resultingAccounts accounts o)).lamportsAt k := by
        rw [storeTotal, HashMap.total_eq_sum, keySet_commit]
        rfl
    _ = ∑ k ∈ HashMap.keySet (svm.withExplicit accounts).accounts,
          (svm.withExplicit accounts).lamportsAt k := by
        exact_mod_cast hchange
    _ = (svm.withExplicit accounts).storeTotal := by
        rw [storeTotal, HashMap.total_eq_sum]
        rfl

/-! ## The conservation law -/

/-- For every runtime a call keeps its writes exactly when every written key was supplied; no
runtime at all can lose a write exactly when every key of the transaction was supplied or nothing
runs; and lamports that the runtime conserves and changes under supplied keys are conserved in the
store. -/
theorem writes_kept_iff (cr : Crates) (svm : QuasarSvm) (ixs : List Instruction)
    (accounts : List Account) :
    (∀ rt, KeepsWrites cr rt svm ixs accounts ↔
        ∀ o, svm.run cr rt ixs accounts = some o → o.rawResult = .ok () →
          ∀ k final, k ≠ cr.instructionsSysvarId → Written cr svm ixs accounts o k final →
            Supplied svm accounts k) ∧
      ((∀ rt, KeepsWrites cr rt svm ixs accounts) ↔
        (svm.message cr ixs accounts).message.instructions = [] ∨
          ∀ k ∈ (svm.initialContext cr ixs accounts).accounts.map Prod.fst,
            k ≠ cr.instructionsSysvarId → Supplied svm accounts k) ∧
      ((cr.messageNew ixs).accountKeys.Nodup → AgreeOnLamports accounts →
        ∀ rt o, svm.run cr rt ixs accounts = some o → o.rawResult = .ok () →
          ChangesSupplied cr svm ixs accounts o →
          transactionTotal o.context.transactionContext =
            transactionTotal (svm.initialContext cr ixs accounts) →
          (svm.processInstructionChain cr rt ixs accounts).1.storeTotal =
            (svm.withExplicit accounts).storeTotal) := by
  refine ⟨fun rt => keepsWrites_iff, keepsWrites_forall_iff, ?_⟩
  intro hkeys hagree rt o hrun hok hsupplied hsum
  exact storeTotal_conserved hkeys hagree hrun hok hsupplied hsum

/-! ### An account created by a program -/

/-- The run of the transfer, with the receiver passed explicitly. -/
def transferOutcome : MessageOutcome :=
  runInstructions Reference.transferRuntime
    (Reference.payerVm.message Reference.crates [Reference.transferInstruction]
      [Reference.walletOf (Pubkey.filled 2)]).message.instructions
    (Reference.payerVm.startContext Reference.crates [Reference.transferInstruction]
      [Reference.walletOf (Pubkey.filled 2)] InstructionTrace.empty) 0

theorem transferOutcome_supplied :
    ChangesSupplied Reference.crates Reference.payerVm [Reference.transferInstruction]
      [Reference.walletOf (Pubkey.filled 2)] transferOutcome := by
  intro pair hpair hchange
  have hkeys : ∀ pair ∈ (Reference.payerVm.initialContext Reference.crates
      [Reference.transferInstruction] [Reference.walletOf (Pubkey.filled 2)]).accounts.zip
        transferOutcome.context.transactionContext.accounts,
      pair.1.2.lamports ≠ pair.2.2.lamports →
        pair.1.1 = Pubkey.filled 1 ∨ pair.1.1 = Pubkey.filled 2 := by
    decide
  rcases hkeys pair hpair hchange with h | h
  · refine Or.inl ?_
    rw [h]
    decide
  · exact Or.inr ⟨Reference.walletOf (Pubkey.filled 2), by simp, h.symm⟩

/-- With the receiver supplied the transfer conserves the store. -/
theorem writes_kept_iff_transfer :
    (Reference.payerVm.processInstructionChain Reference.crates Reference.transferRuntime
        [Reference.transferInstruction] [Reference.walletOf (Pubkey.filled 2)]).1.storeTotal =
      (Reference.payerVm.withExplicit [Reference.walletOf (Pubkey.filled 2)]).storeTotal := by
  refine (writes_kept_iff Reference.crates Reference.payerVm [Reference.transferInstruction]
    [Reference.walletOf (Pubkey.filled 2)]).2.2
    (Reference.nodup_accountKeys [Reference.transferInstruction]) ?_ Reference.transferRuntime
    transferOutcome (run_of_prepare rfl) rfl transferOutcome_supplied (by decide)
  unfold AgreeOnLamports
  decide

/-- The receiver is created by the call, neither stored nor passed: its account is not reported and
not stored, and ten lamports are gone although the runtime conserved them. -/
theorem created_account_lost :
    ¬ KeepsWrites Reference.crates Reference.transferRuntime Reference.payerVm
        [Reference.transferInstruction] [] ∧
      (Reference.payerVm.processInstructionChain Reference.crates Reference.transferRuntime
        [Reference.transferInstruction] []).1.getAccount (Pubkey.filled 2) = none ∧
      (Reference.payerVm.withExplicit []).storeTotal = 1000 ∧
      (Reference.payerVm.processInstructionChain Reference.crates Reference.transferRuntime
        [Reference.transferInstruction] []).1.storeTotal = 990 := by
  refine ⟨?_, by decide, by decide, by decide⟩
  intro h
  have hsupplied := keepsWrites_iff.1 h _ (run_of_prepare rfl) rfl (Pubkey.filled 2)
    { SolanaAccount.default with lamports := 10 } (by decide)
    ⟨SolanaAccount.default, by decide, by decide, Or.inl (by decide)⟩
  rcases hsupplied with hstored | ⟨a, ha, _⟩
  · exact absurd hstored (by decide)
  · cases ha

end QuasarSvm
end Svm
end Quasar
