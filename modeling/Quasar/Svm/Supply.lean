import Quasar.Svm.Atomicity
import Quasar.Svm.Conservation
import Quasar.Svm.StoreLedger

/-!
# Supply — all lamports of the store over a history

The runtime moves lamports between the accounts of a transaction and makes none.  So the total of the
store changes by what the operations put in: accounts that are set or created, airdrops, and accounts
that an execution is passed.  What an execution moves to accounts that nobody supplied is lost, since
these are not written back.
-/

namespace Quasar
namespace Svm
namespace QuasarSvm

open Lib

variable {cr : Crates} {rt : Runtime} {svm : QuasarSvm} {ixs : List Instruction}
  {accounts : List Account} {o : MessageOutcome}

/-- An instruction that succeeds leaves the lamports of its transaction as they were in total. -/
def ConservesLamports (rt : Runtime) : Prop :=
  ∀ inp, (rt.processInstruction inp).result = .ok () →
    ((InvokeContext.accountsAfter inp.transactionContext.accounts
        (rt.processInstruction inp).accountAfter).map fun p => p.2.lamports.toNat).sum =
      transactionTotal inp.transactionContext

/-! ## Runs -/

/-- Instructions that all succeed leave the total as it was. -/
theorem transactionTotal_runInstructions (hrt : ConservesLamports rt)
    (ixs : List CompiledInstruction) (ic : InvokeContext) (units : UInt64)
    (hok : (runInstructions rt ixs ic units).rawResult = .ok ()) :
    transactionTotal (runInstructions rt ixs ic units).context.transactionContext =
      transactionTotal ic.transactionContext := by
  induction ixs generalizing ic units with
  | nil => rfl
  | cons ix rest ih =>
      cases hresult : (rt.processInstruction ic.input).result with
      | error e =>
          rw [runInstructions_of_error hresult] at hok
          cases hok
      | ok u =>
          rw [runInstructions_of_ok hresult] at hok ⊢
          exact (ih _ _ hok).trans (hrt ic.input hresult)

theorem transactionTotal_of_run (hrt : ConservesLamports rt)
    (hrun : svm.run cr rt ixs accounts = some o) (hok : o.rawResult = .ok ()) :
    transactionTotal o.context.transactionContext =
      transactionTotal (svm.initialContext cr ixs accounts) := by
  rcases run_eq_some hrun with ⟨trace, _, rfl⟩
  exact transactionTotal_runInstructions hrt _ _ _ hok

/-! ## Executions -/

/-- What accounts that nobody supplied have gained in a run. -/
def leak (cr : Crates) (svm : QuasarSvm) (ixs : List Instruction) (accounts : List Account)
    (o : MessageOutcome) : ℤ :=
  (((lamportChanges cr svm ixs accounts o).filter fun c =>
    c.1 ∉ (svm.mergedAccounts accounts).map Prod.fst).map Prod.snd).sum

/-- The changes of the supplied keys and the others. -/
theorem sum_supplied_add_leak (hrt : ConservesLamports rt)
    (hrun : svm.run cr rt ixs accounts = some o) (hok : o.rawResult = .ok ()) :
    (((lamportChanges cr svm ixs accounts o).filter fun c =>
        c.1 ∈ (svm.mergedAccounts accounts).map Prod.fst).map Prod.snd).sum +
      leak cr svm ixs accounts o = 0 := by
  have htotal := sum_lamportChanges hrun (transactionTotal_of_run hrt hrun hok)
  have hsplit : ∀ l : List (Pubkey × ℤ),
      ((l.filter fun c => c.1 ∈ (svm.mergedAccounts accounts).map Prod.fst).map Prod.snd).sum +
        ((l.filter fun c => c.1 ∉ (svm.mergedAccounts accounts).map Prod.fst).map Prod.snd).sum =
          (l.map Prod.snd).sum := by
    intro l
    induction l with
    | nil => rfl
    | cons c l ih =>
        rw [List.map_cons, List.sum_cons, ← ih]
        by_cases hc : c.1 ∈ (svm.mergedAccounts accounts).map Prod.fst
        · rw [List.filter_cons_of_pos (by simpa using hc),
            List.filter_cons_of_neg (by simpa using hc), List.map_cons, List.sum_cons, add_assoc]
        · rw [List.filter_cons_of_neg (by simpa using hc),
            List.filter_cons_of_pos (by simpa using hc), List.map_cons, List.sum_cons, add_left_comm]
  exact (hsplit _).trans htotal

/-- The stored changes of all keys add up to the changes that are seen, those of supplied keys. -/
theorem sum_storeChange_seen (hkeys : (cr.messageNew ixs).accountKeys.Nodup)
    (hagree : AgreeOnLamports accounts) (hrun : svm.run cr rt ixs accounts = some o) :
    ∑ k ∈ HashMap.keySet (svm.withExplicit accounts).accounts, storeChange svm accounts o k =
      (((lamportChanges cr svm ixs accounts o).filter fun c =>
        c.1 ∈ (svm.mergedAccounts accounts).map Prod.fst).map Prod.snd).sum := by
  have hseen : ∀ k, k ∈ HashMap.keySet (svm.withExplicit accounts).accounts ↔
      k ∈ (svm.mergedAccounts accounts).map Prod.fst := fun _ => mem_keySet_withExplicit
  apply Ledger.sum_observed
  · simp only [hseen, List.filter_filter, Bool.and_self]
    have hfilter : ((lamportChanges cr svm ixs accounts o).filter
        fun c => c.1 ∈ (svm.mergedAccounts accounts).map Prod.fst).map Prod.fst =
          ((svm.initialContext cr ixs accounts).accounts.map Prod.fst).filter
            fun k => k ∈ (svm.mergedAccounts accounts).map Prod.fst := by
      rw [← keys_lamportChanges hrun, List.filter_map]
      rfl
    rw [hfilter]
    exact nodup_supplied_keys hkeys
  · intro c hc hk
    exact storeChange_of_listed hkeys hagree hrun (List.mem_of_mem_filter hc) ((hseen _).1 hk)
  · intro k hk hnot
    apply storeChange_of_unlisted hagree hrun ((hseen k).1 hk)
    intro hlisted
    rcases List.mem_map.1 hlisted with ⟨c, hc, rfl⟩
    exact hnot (List.mem_map.2 ⟨c, List.mem_filter.2 ⟨hc, by simpa using (hseen _).1 hk⟩, rfl⟩)
  · intro c hc hk
    exact absurd ((hseen _).2 (by simpa using (List.mem_filter.1 hc).2)) hk

/-- A committed success puts the explicit accounts into the store, and what the run moved to accounts
that nobody supplied is gone. -/
theorem storeTotal_commit (hrt : ConservesLamports rt)
    (hkeys : (cr.messageNew ixs).accountKeys.Nodup) (hagree : AgreeOnLamports accounts)
    (hrun : svm.run cr rt ixs accounts = some o) (hok : o.rawResult = .ok ()) :
    (((svm.afterRun o).commitAccounts (svm.resultingAccounts accounts o)).storeTotal : ℤ) =
      (svm.withExplicit accounts).storeTotal - leak cr svm ixs accounts o := by
  have hchange := sum_storeChange_seen hkeys hagree hrun
  have hleak := sum_supplied_add_leak hrt hrun hok
  rw [← hchange] at hleak
  simp only [storeChange, Finset.sum_sub_distrib] at hleak
  have hafter : (((svm.afterRun o).commitAccounts (svm.resultingAccounts accounts o)).storeTotal : ℤ) =
      ∑ k ∈ HashMap.keySet (svm.withExplicit accounts).accounts,
        (((svm.afterRun o).commitAccounts
          (svm.resultingAccounts accounts o)).lamportsAt k : ℤ) := by
    rw [storeTotal, HashMap.total_eq_sum, keySet_commit]
    push_cast
    rfl
  have hbefore : ((svm.withExplicit accounts).storeTotal : ℤ) =
      ∑ k ∈ HashMap.keySet (svm.withExplicit accounts).accounts,
        ((svm.withExplicit accounts).lamportsAt k : ℤ) := by
    rw [storeTotal, HashMap.total_eq_sum]
    push_cast
    rfl
  rw [hafter, hbefore]
  omega

/-! ## Operations -/

/-- What a committed call puts into the store: the explicit accounts instead of those that were there,
less what it loses. -/
def executionInflow (cr : Crates) (rt : Runtime) (svm : QuasarSvm) (ixs : List Instruction)
    (accounts : List Account) : ℤ :=
  match svm.run cr rt ixs accounts with
  | none => 0
  | some o =>
      match o.rawResult with
      | .ok () =>
          (svm.withExplicit accounts).storeTotal - svm.storeTotal - leak cr svm ixs accounts o
      | .error _ => 0

/-- What an operation puts into the store. -/
def inflow (cr : Crates) (rt : Runtime) (svm : QuasarSvm) : Operation → ℤ
  | .setAccount account => account.lamports.toNat - svm.lamportsAt account.address
  -- A sum that does not fit into 64 bits wraps.
  | .airdrop pubkey lamports =>
      lamports.toNat -
        if svm.lamportsAt pubkey + lamports.toNat < 2 ^ 64 then 0 else 2 ^ 64
  | .createAccount pubkey space _ =>
      (cr.minimumBalance svm.sysvars.rent space).toNat - svm.lamportsAt pubkey
  | .execute ixs accounts true => executionInflow cr rt svm ixs accounts
  | _ => 0

theorem storeTotal_insert (svm : QuasarSvm) (k : Pubkey) (a : SolanaAccount) :
    (({ svm with accounts := svm.accounts.insert k a } : QuasarSvm).storeTotal : ℤ) =
      svm.storeTotal + (a.lamports.toNat - svm.lamportsAt k) := by
  have htotal : ({ svm with accounts := svm.accounts.insert k a } : QuasarSvm).storeTotal +
      svm.lamportsAt k = svm.storeTotal + a.lamports.toNat :=
    HashMap.total_insert (fun a : SolanaAccount => a.lamports.toNat) svm.accounts k a
  omega

theorem storeTotal_airdrop (cr : Crates) (svm : QuasarSvm) (k : Pubkey) (lamports : UInt64) :
    ((svm.airdrop cr k lamports).storeTotal : ℤ) =
      svm.storeTotal +
        (lamports.toNat - if svm.lamportsAt k + lamports.toNat < 2 ^ 64 then 0 else 2 ^ 64) := by
  refine (storeTotal_insert svm k _).trans ?_
  have hamount := lamports.toNat_lt
  cases hlookup : svm.accounts.lookup k with
  | none =>
      have hzero : svm.lamportsAt k = 0 := by
        rw [lamportsAt, hlookup]
        rfl
      rw [hzero, if_pos (by omega)]
      push_cast
      ring
  | some a =>
      have hold := a.lamports.toNat_lt
      have hsum : (a.lamports + lamports).toNat = (a.lamports.toNat + lamports.toNat) % 2 ^ 64 :=
        UInt64.toNat_add a.lamports lamports
      rw [lamportsAt_of_lookup hlookup]
      dsimp only
      by_cases hfits : a.lamports.toNat + lamports.toNat < 2 ^ 64
      · rw [if_pos hfits]
        omega
      · rw [if_neg hfits]
        omega

/-- Rewriting the data of an account leaves its lamports alone. -/
theorem storeTotal_rewrite {svm' : QuasarSvm} {address : Pubkey}
    (h : RewritesData svm svm' address) : svm'.storeTotal = svm.storeTotal := by
  rcases h with rfl | ⟨acct, data, hlookup, rfl⟩
  · rfl
  · have htotal := storeTotal_insert svm address { acct with data := data }
    rw [lamportsAt_of_lookup hlookup] at htotal
    dsimp only at htotal
    omega

theorem storeTotal_execute (hrt : ConservesLamports rt)
    (hkeys : ∀ ixs, (cr.messageNew ixs).accountKeys.Nodup) (svm : QuasarSvm)
    (ixs : List Instruction) (hagree : AgreeOnLamports accounts) :
    ((svm.executeInner cr rt ixs accounts true).1.storeTotal : ℤ) =
      svm.storeTotal + executionInflow cr rt svm ixs accounts := by
  have hexecution := executeInner_execution cr rt svm ixs accounts true
  generalize svm.executeInner cr rt ixs accounts true = out at hexecution
  unfold executionInflow
  cases hexecution with
  | panicked hrun =>
      rw [hrun, add_zero]
      rfl
  | failed o e hrun hresult =>
      rw [hrun]
      dsimp only
      rw [hresult, add_zero]
      rfl
  | succeeded o hrun hresult =>
      have hcommit := storeTotal_commit hrt (hkeys ixs) hagree hrun hresult
      rw [hrun]
      dsimp only
      rw [hresult]
      exact hcommit.trans (by ring)

/-- Explicit accounts of one address hold the same lamports, in every execution of the history. -/
def PassesAgree (ops : List Operation) : Prop :=
  ∀ ixs accounts commit, .execute ixs accounts commit ∈ ops → AgreeOnLamports accounts

/-- Every operation changes the total by its inflow. -/
theorem storeTotal_operate (hrt : ConservesLamports rt)
    (hkeys : ∀ ixs, (cr.messageNew ixs).accountKeys.Nodup) (svm : QuasarSvm) (op : Operation)
    (hagree : PassesAgree [op]) :
    ((svm.operate cr rt op).1.storeTotal : ℤ) = svm.storeTotal + inflow cr rt svm op := by
  cases op with
  | setAccount account => exact storeTotal_insert svm _ _
  | airdrop pubkey lamports => exact storeTotal_airdrop cr svm pubkey lamports
  | createAccount pubkey space owner => exact storeTotal_insert svm _ _
  | setTokenBalance address amount =>
      have hsame := storeTotal_rewrite (rewritesData_setTokenBalance cr svm address amount)
      exact (congrArg Nat.cast hsame).trans (add_zero _).symm
  | setMintSupply address supply =>
      have hsame := storeTotal_rewrite (rewritesData_setMintSupply cr svm address supply)
      exact (congrArg Nat.cast hsame).trans (add_zero _).symm
  | addProgram programId loaderKey elf =>
      have hsame : (svm.addProgram cr programId loaderKey elf).1.storeTotal = svm.storeTotal := by
        unfold addProgram
        cases svm.programCache.addProgram cr programId loaderKey elf with
        | none => rfl
        | some programCache => rfl
      exact (congrArg Nat.cast hsame).trans (add_zero _).symm
  | execute ixs accounts commit =>
      cases commit with
      | true =>
          exact storeTotal_execute hrt hkeys svm ixs (hagree ixs accounts true List.mem_cons_self)
      | false =>
          have hstore :=
            (executeInner_execution cr rt svm ixs accounts false).accounts_of_simulated
          have hsame : (svm.executeInner cr rt ixs accounts false).1.storeTotal = svm.storeTotal :=
            congrArg (HashMap.total fun a : SolanaAccount => a.lamports.toNat) hstore
          exact (congrArg Nat.cast hsame).trans (add_zero _).symm
  | _ => exact (add_zero _).symm

/-! ## Histories -/

/-- The store of a VM after a history holds what it held before and what the operations put in: the
runtime makes no lamports, and the engine makes and loses none but where `inflow` says so. -/
theorem storeTotal_after (hrt : ConservesLamports rt)
    (hkeys : ∀ ixs, (cr.messageNew ixs).accountKeys.Nodup) (svm : QuasarSvm)
    {ops : List Operation} (hagree : PassesAgree ops) :
    ((svm.after cr rt ops).storeTotal : ℤ) =
      svm.storeTotal + (((machine cr rt).steps svm ops).map fun p => inflow cr rt p.1 p.2).sum := by
  induction ops generalizing svm with
  | nil => exact (add_zero _).symm
  | cons op ops ih =>
      have hop : PassesAgree [op] := by
        intro ixs accounts commit hmem
        exact hagree ixs accounts commit (List.mem_cons.2 (Or.inl (List.mem_singleton.1 hmem)))
      have hops : PassesAgree ops := fun ixs accounts commit hmem =>
        hagree ixs accounts commit (List.mem_cons_of_mem _ hmem)
      calc ((svm.after cr rt (op :: ops)).storeTotal : ℤ)
          = (svm.operate cr rt op).1.storeTotal +
              (((machine cr rt).steps (svm.operate cr rt op).1 ops).map
                fun p => inflow cr rt p.1 p.2).sum := ih (svm.operate cr rt op).1 hops
        _ = svm.storeTotal + (inflow cr rt svm op +
              (((machine cr rt).steps (svm.operate cr rt op).1 ops).map
                fun p => inflow cr rt p.1 p.2).sum) := by
            rw [storeTotal_operate hrt hkeys svm op hop, add_assoc]
        _ = svm.storeTotal +
              (((machine cr rt).steps svm (op :: ops)).map fun p => inflow cr rt p.1 p.2).sum := by
            rw [Machine.steps, List.map_cons, List.sum_cons]
            rfl

/-- A runtime that rejects an instruction which leaves another total than it found. -/
def balanced (rt : Runtime) : Runtime :=
  { rt with
    processInstruction := fun inp =>
      let o := rt.processInstruction inp
      let after := InvokeContext.accountsAfter inp.transactionContext.accounts o.accountAfter
      { o with
        result :=
          if (after.map fun p => p.2.lamports.toNat).sum = transactionTotal inp.transactionContext then
            o.result
          else
            .error .unbalancedInstruction } }

theorem conservesLamports_balanced (rt : Runtime) : ConservesLamports (balanced rt) := by
  intro inp hok
  by_contra hne
  cases (if_neg hne).symm.trans hok

/-- Five lamports are airdropped, a thousand come with the receiver, and ten are moved twice. -/
theorem storeTotal_after_sample :
    ((Reference.payerVm.after Reference.crates (balanced Reference.transferRuntime)
        [.airdrop (Pubkey.filled 3) 5,
          .execute [Reference.transferInstruction] [Reference.walletOf (Pubkey.filled 2)] true,
          .execute [Reference.transferInstruction] [] true]).storeTotal : ℤ) = 2005 := by
  rw [storeTotal_after (conservesLamports_balanced _) Reference.nodup_accountKeys]
  · decide
  · intro ixs accounts commit hmem
    have hpassed : ∀ a ∈ accounts, a = Reference.walletOf (Pubkey.filled 2) := by
      rcases List.mem_cons.1 hmem with h | hmem
      · cases h
      · rcases List.mem_cons.1 hmem with h | hmem
        · cases h
          exact fun a ha => List.mem_singleton.1 ha
        · cases List.mem_singleton.1 hmem
          exact fun a ha => absurd ha List.not_mem_nil
    intro a ha b hb _
    rw [hpassed a ha, hpassed b hb]

end QuasarSvm
end Svm
end Quasar
