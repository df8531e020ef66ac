import Quasar.Svm.History
import Quasar.Svm.Resolution

/-!
# StoreHistory — how an address gets into the account store

No operation removes an account.  So an address is stored after a history exactly when it was stored
before, or one of the steps stored an account under it: an explicit account of a committed call
counts as well as an account that is set.
-/

namespace Quasar
namespace Svm
namespace QuasarSvm

open Lib

variable {cr : Crates} {rt : Runtime} {svm : QuasarSvm} {ixs : List Instruction}
  {accounts : List Account} {k : Pubkey}

/-- A call that writes its accounts back. -/
def Commits (cr : Crates) (rt : Runtime) (svm : QuasarSvm) (ixs : List Instruction)
    (accounts : List Account) (commit : Bool) : Prop :=
  commit = true ∧ ∃ r, (svm.executeInner cr rt ixs accounts commit).2 = .ok r ∧ r.rawResult = .ok ()

/-- The operation stores an account under the address, whether or not there is one already. -/
def StoresAt (cr : Crates) (rt : Runtime) (k : Pubkey) (svm : QuasarSvm) : Operation → Prop
  | .setAccount account => account.address = k
  | .airdrop pubkey _ => pubkey = k
  | .createAccount pubkey _ _ => pubkey = k
  | .execute ixs accounts commit =>
      Commits cr rt svm ixs accounts commit ∧ ∃ a ∈ accounts, a.address = k
  | _ => False

/-- The addresses an operation may store an account under. -/
def storedKeys : Operation → List Pubkey
  | .setAccount account => [account.address]
  | .airdrop pubkey _ => [pubkey]
  | .createAccount pubkey _ _ => [pubkey]
  | .execute _ accounts _ => accounts.map Account.address
  | _ => []

theorem StoresAt.mem_storedKeys {op : Operation} (h : StoresAt cr rt k svm op) :
    k ∈ storedKeys op := by
  cases op with
  | setAccount account => exact List.mem_singleton.2 h.symm
  | airdrop pubkey lamports => exact List.mem_singleton.2 h.symm
  | createAccount pubkey space owner => exact List.mem_singleton.2 h.symm
  | execute ixs accounts commit =>
      rcases h.2 with ⟨a, ha, hak⟩
      exact List.mem_map.2 ⟨a, ha, hak⟩
  | _ => exact h.elim

/-- A commit stores exactly the supplied addresses. -/
theorem isSome_lookup_commit {o : MessageOutcome} (svm' : QuasarSvm)
    (hstore : svm'.accounts = svm.accounts) :
    ((svm'.commitAccounts (svm.resultingAccounts accounts o)).accounts.lookup k).isSome ↔
      (svm.accounts.lookup k).isSome ∨ ∃ a ∈ accounts, a.address = k := by
  have hkeys : (svm.resultingAccounts accounts o).map Prod.fst =
      (svm.mergedAccounts accounts).map Prod.fst := by
    simp [resultingAccounts, deconstructResultingAccounts, Function.comp_def]
  have hlast : (HashMap.lastOf k (svm.resultingAccounts accounts o)).isSome ↔
      Supplied svm accounts k := by
    rw [← mem_mergedKeys_iff, ← hkeys, ← not_iff_not, ← HashMap.lastOf_eq_none_iff]
    simp
  rw [commitAccounts, HashMap.lookup_insertAll, Option.isSome_or, Bool.or_eq_true, hlast, hstore,
    Supplied, getAccount, Option.isSome_map]
  constructor
  · intro h
    rcases h with h | h
    · exact h
    · exact Or.inl h
  · exact Or.inl

/-- What one call adds to the store. -/
theorem isSome_lookup_executeInner (commit : Bool) :
    ((svm.executeInner cr rt ixs accounts commit).1.accounts.lookup k).isSome ↔
      (svm.accounts.lookup k).isSome ∨
        (Commits cr rt svm ixs accounts commit ∧ ∃ a ∈ accounts, a.address = k) := by
  have hcall := executeInner_execution cr rt svm ixs accounts commit
  unfold Commits
  revert hcall
  generalize svm.executeInner cr rt ixs accounts commit = out
  intro hcall
  cases hcall with
  | panicked hrun => simp [resetLogger]
  | failed o e hrun hresult =>
      -- A failed call reports an error, so it does not commit.
      have hnot : ¬ ∃ r, Except.ok (report cr (svm.mergedAccounts accounts)
          (svm.mergedAccounts accounts) (svm.afterRun o).drainLogs o) =
            (.ok r : Except String ExecutionResult) ∧ r.rawResult = .ok () := by
        rintro ⟨r, hr, hok⟩
        cases hr
        cases hresult.symm.trans hok
      simp only [hnot, and_false, false_and, or_false]
      rfl
  | succeeded o hrun hresult =>
      cases commit with
      | false => simp [accounts_afterRun]
      | true =>
          have hok : ∃ r, Except.ok (report cr (svm.mergedAccounts accounts)
              (svm.resultingAccounts accounts o) (svm.afterRun o).drainLogs o) =
                (.ok r : Except String ExecutionResult) ∧ r.rawResult = .ok () :=
            ⟨_, rfl, hresult⟩
          simp only [hok, true_and]
          exact isSome_lookup_commit (svm.afterRun o) (accounts_afterRun svm o)

theorem isSome_lookup_insert {α : Type} (m : HashMap Pubkey α) (k' : Pubkey) (a : α) :
    ((m.insert k' a).lookup k).isSome ↔ (m.lookup k).isSome ∨ k' = k := by
  rw [HashMap.lookup_insert_eq]
  by_cases h : k' = k
  · simp [h]
  · simp [h]

/-- Replacing a stored account stores no new address. -/
theorem isSome_lookup_replace {α : Type} {m : HashMap Pubkey α} {k' : Pubkey} {a : α}
    (h : m.lookup k' = some a) (a' : α) :
    ((m.insert k' a').lookup k).isSome ↔ (m.lookup k).isSome := by
  rw [isSome_lookup_insert]
  constructor
  · intro hor
    rcases hor with hsome | rfl
    · exact hsome
    · simp [h]
  · exact Or.inl

theorem isSome_lookup_rewrite {svm' : QuasarSvm} {address : Pubkey}
    (h : RewritesData svm svm' address) :
    (svm'.accounts.lookup k).isSome ↔ (svm.accounts.lookup k).isSome := by
  rcases h with rfl | ⟨acct, data, hlookup, rfl⟩
  · rfl
  · exact isSome_lookup_replace hlookup _

/-- What one operation adds to the store. -/
theorem isSome_lookup_operate (svm : QuasarSvm) (op : Operation) :
    ((svm.operate cr rt op).1.accounts.lookup k).isSome ↔
      (svm.accounts.lookup k).isSome ∨ StoresAt cr rt k svm op := by
  cases op with
  | setAccount account => exact isSome_lookup_insert _ _ _
  | airdrop pubkey lamports => exact isSome_lookup_insert _ _ _
  | createAccount pubkey space owner => exact isSome_lookup_insert _ _ _
  | execute ixs accounts commit => exact isSome_lookup_executeInner commit
  | addProgram programId loaderKey elf =>
      simp only [operate, addProgram, StoresAt, or_false]
      cases svm.programCache.addProgram cr programId loaderKey elf with
      | none => rfl
      | some programCache => rfl
  | setTokenBalance address amount =>
      exact (isSome_lookup_rewrite (rewritesData_setTokenBalance cr svm address amount)).trans
        (or_iff_left id).symm
  | setMintSupply address supply =>
      exact (isSome_lookup_rewrite (rewritesData_setMintSupply cr svm address supply)).trans
        (or_iff_left id).symm
  -- The others leave the store alone.
  | _ => exact (or_iff_left id).symm

/-! ## Histories -/

/-- The VM after a history of operations. -/
def after (cr : Crates) (rt : Runtime) (svm : QuasarSvm) (ops : List Operation) : QuasarSvm :=
  (machine cr rt).after svm ops

/-- No step of the history stores an account under the address. -/
def NeverStores (cr : Crates) (rt : Runtime) (svm : QuasarSvm) (ops : List Operation) (k : Pubkey) :
    Prop :=
  ∀ step ∈ (machine cr rt).steps svm ops, ¬ StoresAt cr rt k step.1 step.2

/-- An address that was not stored before a history is not stored after it exactly when no step
stored an account under it. -/
theorem lookup_after_eq_none_iff (hnew : svm.accounts.lookup k = none) (ops : List Operation) :
    (svm.after cr rt ops).accounts.lookup k = none ↔ NeverStores cr rt svm ops k := by
  have hstored : ((svm.after cr rt ops).accounts.lookup k).isSome = true ↔
      (svm.accounts.lookup k).isSome = true ∨
        ∃ step ∈ (machine cr rt).steps svm ops, StoresAt cr rt k step.1 step.2 :=
    Machine.after_iff (P := fun svm => (svm.accounts.lookup k).isSome = true)
      (fun svm op => isSome_lookup_operate svm op) svm ops
  rw [← Option.not_isSome_iff_eq_none, hstored, NeverStores]
  simp [hnew]

/-- A history whose operations do not even name the address stores nothing under it. -/
theorem neverStores_of_not_mem {ops : List Operation} (h : ∀ op ∈ ops, k ∉ storedKeys op) :
    NeverStores cr rt svm ops k := by
  intro step hstep hstores
  exact h step.2 (Machine.mem_of_mem_steps _ hstep) hstores.mem_storedKeys

end QuasarSvm

end Svm
end Quasar
