import Quasar.Svm.Equivalence

/-!
# Iteration — what depends on the order of hash maps and hash sets

A call iterates over the store and over the set of its top-level program ids.  The order of the store
only shows in the order of the report.  The order of the program ids decides which fallback account
stands under an address that two of the programs fill: a program that is also the programdata account
of another one.  Two calls never share an order, so this also decides whether passing accounts and
storing them first come to the same.
-/

namespace Quasar
namespace Svm

open Lib

namespace QuasarSvm

variable {cr : Crates} {rt : Runtime} {svm svm' : QuasarSvm} {ixs : List Instruction}
  {accounts accounts' : List Account} {k : Pubkey} {iter iter' : List Pubkey → List Pubkey}

/-! ## Two iteration orders -/

/-- The same VM, with another iteration order of its store. -/
def Reordered (svm svm' : QuasarSvm) : Prop :=
  ∃ store : HashMap Pubkey SolanaAccount, store.entries.Perm svm.accounts.entries ∧
    svm' = { svm with accounts := store }

/-- Two calls with the same outcome and the same store after it, whose reports list the same accounts
and the same balances, in any order. -/
structure SameUpToOrder (out out' : Call ExecutionResult) : Prop where
  outcome : SameOutcome out out'
  store : ∀ k, out'.1.accounts.lookup k = out.1.accounts.lookup k
  lists : ∀ r r', out.2 = .ok r → out'.2 = .ok r' →
    r'.accounts.Perm r.accounts ∧ r'.preBalances.Perm r.preBalances ∧
      r'.postBalances.Perm r.postBalances

/-- Two calls of the same instructions have the same outcome for every runtime, whatever orders they
list their program ids in, and whatever order the store of the second one has. -/
def SameAnyOrder (cr : Crates) (ixs : List Instruction) (svm : QuasarSvm) (accounts : List Account)
    (svm' : QuasarSvm) (accounts' : List Account) : Prop :=
  ∀ rt iter iter' svm'', IsSetOrder iter → IsSetOrder iter' → Reordered svm' svm'' →
    SameOutcome (svm.processInstructionChain (cr.withOrder iter) rt ixs accounts)
      (svm''.processInstructionChain (cr.withOrder iter') rt ixs accounts')

/-- The call has the same outcome for every runtime under any two iteration orders. -/
def OrderIrrelevant (cr : Crates) (svm : QuasarSvm) (ixs : List Instruction)
    (accounts : List Account) : Prop :=
  ∀ rt iter iter' svm', IsSetOrder iter → IsSetOrder iter' → Reordered svm svm' →
    SameUpToOrder (svm.processInstructionChain (cr.withOrder iter) rt ixs accounts)
      (svm'.processInstructionChain (cr.withOrder iter') rt ixs accounts)

/-- The top-level programs that nobody supplied. -/
def missingIds (svm : QuasarSvm) (ixs : List Instruction) (accounts : List Account) :
    List Pubkey :=
  (ixs.map Instruction.programId).filter fun pid => pid ∉ (svm.mergedAccounts accounts).map Prod.fst

/-- No two missing programs have different fallback accounts for one key of the message. -/
def FallbacksAgree (cr : Crates) (svm : QuasarSvm) (ixs : List Instruction)
    (accounts : List Account) : Prop :=
  ∀ k ∈ (cr.messageNew ixs).accountKeys, k ≠ cr.instructionsSysvarId → ¬ Supplied svm accounts k →
    HashMap.AgreeOn k (svm.programFallbacks cr) (missingIds svm ixs accounts)

/-! ## The store -/

theorem Reordered.lookup_eq (h : Reordered svm svm') (k : Pubkey) :
    svm'.accounts.lookup k = svm.accounts.lookup k := by
  rcases h with ⟨store, hperm, rfl⟩
  exact AList.perm_lookup hperm

theorem Reordered.firstOf_eq (h : Reordered svm svm') (accounts : List Account) (k : Pubkey) :
    HashMap.firstOf k (svm'.mergedAccounts accounts) =
      HashMap.firstOf k (svm.mergedAccounts accounts) := by
  rw [firstOf_mergedAccounts, firstOf_mergedAccounts, h.lookup_eq]

theorem Reordered.lastOf_eq (h : Reordered svm svm') (accounts : List Account) (k : Pubkey) :
    HashMap.lastOf k (svm'.mergedAccounts accounts) =
      HashMap.lastOf k (svm.mergedAccounts accounts) := by
  rw [lastOf_mergedAccounts, lastOf_mergedAccounts, h.lookup_eq]

theorem Reordered.sameView (h : Reordered svm svm') (accounts : List Account) :
    SameView svm svm' accounts accounts := by
  have hfirst := h.firstOf_eq accounts
  rcases h with ⟨store, _, rfl⟩
  exact ⟨rfl, rfl, rfl, hfirst⟩

theorem Reordered.sameMerge (h : Reordered svm svm') (accounts : List Account) :
    SameMerge svm svm' accounts accounts :=
  ⟨h.sameView accounts, h.lastOf_eq accounts⟩

theorem Reordered.refl (svm : QuasarSvm) : Reordered svm svm :=
  ⟨svm.accounts, List.Perm.refl _, rfl⟩

/-- The merged list is the same up to its order. -/
theorem Reordered.perm_mergedAccounts (h : Reordered svm svm') (accounts : List Account) :
    (svm'.mergedAccounts accounts).Perm (svm.mergedAccounts accounts) := by
  rcases h with ⟨store, hperm, rfl⟩
  exact ((hperm.map _).filter _).append_right _

/-! ## The program ids -/

/-! Only the order of the program ids is another one, so the message, its keys and the instructions
sysvar are found as before. -/

theorem findAccount_withOrder (hkey : k ∈ (cr.messageNew ixs).accountKeys)
    (iter : List Pubkey → List Pubkey) :
    (svm.initialContext (cr.withOrder iter) ixs accounts).findAccount k =
      some (resolved (cr.withOrder iter) svm ixs accounts k) :=
  findAccount_of_mem_keys hkey

theorem lookup_fallbackPairs_withOrder (hne : k ≠ cr.instructionsSysvarId)
    (iter : List Pubkey → List Pubkey) :
    (fallbacks (cr.withOrder iter) svm ixs accounts).lookup k =
      HashMap.lastOf k (fallbackPairs (cr.withOrder iter) svm ixs accounts) :=
  lookup_fallbacks_of_ne hne

theorem lookup_sysvar_withOrder (hnot : ¬ Supplied svm accounts cr.instructionsSysvarId)
    (iter : List Pubkey → List Pubkey) :
    (fallbacks (cr.withOrder iter) svm ixs accounts).lookup cr.instructionsSysvarId =
      some (buildInstructionsSysvar cr ixs).2 := by
  have hlookup : (fallbacks (cr.withOrder iter) svm ixs accounts).lookup
      (cr.withOrder iter).instructionsSysvarId =
        some (buildInstructionsSysvar (cr.withOrder iter) ixs).2 := lookup_fallbacks_sysvar hnot
  exact hlookup

theorem mem_missingIds_iff {pid : Pubkey} :
    pid ∈ missingIds svm ixs accounts ↔
      (∃ ix ∈ ixs, ix.programId = pid) ∧ ¬ Supplied svm accounts pid := by
  simp [missingIds, ← mem_mergedKeys_iff]

/-- Under every iteration order the missing programs are the same. -/
theorem mem_missingPrograms_withOrder (horder : IsSetOrder iter) {pid : Pubkey} :
    pid ∈ missingPrograms (cr.withOrder iter) svm ixs accounts ↔
      pid ∈ missingIds svm ixs accounts := by
  have hmem : pid ∈ missingPrograms (cr.withOrder iter) svm ixs accounts ↔
      (∃ ix ∈ ixs, ix.programId = pid) ∧ ¬ Supplied svm accounts pid :=
    mem_missingPrograms_iff horder
  exact hmem.trans mem_missingIds_iff.symm

/-- Fallbacks that agree are the same under two iteration orders. -/
theorem lookup_fallbacks_withOrder (horder : IsSetOrder iter) (horder' : IsSetOrder iter')
    (hnot : ¬ Supplied svm accounts k)
    (hagree : k ≠ cr.instructionsSysvarId →
      HashMap.AgreeOn k (svm.programFallbacks cr) (missingIds svm ixs accounts)) :
    (fallbacks (cr.withOrder iter') svm ixs accounts).lookup k =
      (fallbacks (cr.withOrder iter) svm ixs accounts).lookup k := by
  by_cases hk : k = cr.instructionsSysvarId
  · -- The account of the instructions sysvar is inserted behind all others.
    subst hk
    rw [lookup_sysvar_withOrder hnot, lookup_sysvar_withOrder hnot]
  · have hmissing : ∀ iter, IsSetOrder iter →
        (fallbacks (cr.withOrder iter) svm ixs accounts).lookup k =
          HashMap.lastOf k ((missingIds svm ixs accounts).flatMap (svm.programFallbacks cr)) := by
      intro iter horder
      refine (lookup_fallbackPairs_withOrder hk iter).trans ?_
      -- All that have an account for the key have the same one, so the last of them does not matter.
      exact HashMap.lastOf_flatMap_congr (hagree hk)
        fun pid => mem_missingPrograms_withOrder horder
    rw [hmissing iter' horder', hmissing iter horder]

/-! ## Agreement is enough -/

theorem run_withOrder (hagree : FallbacksAgree cr svm ixs accounts) (horder : IsSetOrder iter)
    (horder' : IsSetOrder iter') (hview : SameView svm svm' accounts accounts') :
    svm'.run (cr.withOrder iter') rt ixs accounts' =
      svm.run (cr.withOrder iter) rt ixs accounts := by
  have hresolved : ∀ key ∈ (cr.messageNew ixs).accountKeys,
      resolved (cr.withOrder iter') svm' ixs accounts' key =
        resolved (cr.withOrder iter) svm ixs accounts key := by
    intro key hkey
    refine resolved_congr hview ?_ rfl rfl
    intro hnot
    rw [hview.lookup_fallbacks hnot]
    exact lookup_fallbacks_withOrder horder horder' hnot fun hne => hagree key hkey hne hnot
  have hkeyed : (cr.messageNew ixs).accountKeys.map
      (fun key => (key, resolved (cr.withOrder iter') svm' ixs accounts' key)) =
        (cr.messageNew ixs).accountKeys.map
          (fun key => (key, resolved (cr.withOrder iter) svm ixs accounts key)) := by
    refine List.map_congr_left ?_
    intro key hkey
    rw [hresolved key hkey]
  have haccounts : (svm'.initialContext (cr.withOrder iter') ixs accounts').accounts =
      (svm.initialContext (cr.withOrder iter) ixs accounts).accounts := by
    rw [accounts_initialContext, accounts_initialContext]
    simp only [hview.mem_keys_iff]
    exact congrArg (· ++ _) hkeyed
  refine run_congr rfl rfl (initialContext_congr haccounts hview.sysvars hview.budget) ?_
    (congrArg ProgramCache.cache hview.programs) hview.budget
  funext s
  rw [setupSysvarCache_apply, setupSysvarCache_apply, hview.merged, hview.sysvars]
  rfl

/-- Runs that are alike on permuted merged lists report permuted lists. -/
theorem perm_report (hrun : svm'.run (cr.withOrder iter') rt ixs accounts =
      svm.run (cr.withOrder iter) rt ixs accounts)
    (hperm : (svm'.mergedAccounts accounts).Perm (svm.mergedAccounts accounts))
    {r r' : ExecutionResult}
    (hr : (svm.processInstructionChain (cr.withOrder iter) rt ixs accounts).2 = .ok r)
    (hr' : (svm'.processInstructionChain (cr.withOrder iter') rt ixs accounts).2 = .ok r') :
    r'.accounts.Perm r.accounts ∧ r'.preBalances.Perm r.preBalances ∧
      r'.postBalances.Perm r.postBalances := by
  unfold processInstructionChain at hr hr'
  cases ho : svm.run (cr.withOrder iter) rt ixs accounts with
  | none => cases (congrArg Prod.snd (executeInner_of_none ho true)).symm.trans hr
  | some o =>
      rw [executeInner_of_some ho] at hr
      rw [executeInner_of_some (hrun.trans ho)] at hr'
      cases hresult : o.rawResult with
      | error e =>
          -- A failed call reports the merged accounts themselves.
          simp only [settle, hresult] at hr hr'
          cases hr
          cases hr'
          exact ⟨hperm.map _, hperm.map _, hperm.map _⟩
      | ok u =>
          have hresulting : (svm'.resultingAccounts accounts o).Perm
              (svm.resultingAccounts accounts o) := hperm.map _
          simp only [settle, hresult] at hr hr'
          cases hr
          cases hr'
          exact ⟨hresulting.map _, hperm.map _, hresulting.map _⟩

/-- Calls that merge the same have the same outcome under any two orders. -/
theorem sameAnyOrder_of_agree (hagree : FallbacksAgree cr svm ixs accounts)
    (hmerge : SameMerge svm svm' accounts accounts') :
    SameAnyOrder cr ixs svm accounts svm' accounts' := by
  intro rt iter iter' svm'' horder horder' h
  have hmerge' := hmerge.trans (h.sameMerge accounts')
  exact sameOutcome_of_run (run_withOrder hagree horder horder' hmerge'.view) hmerge'

/-- Runs that are alike on reordered stores leave stores that are alike. -/
theorem store_withOrder (h : Reordered svm svm')
    (hrun : svm'.run (cr.withOrder iter') rt ixs accounts =
      svm.run (cr.withOrder iter) rt ixs accounts) (k : Pubkey) :
    (svm'.processInstructionChain (cr.withOrder iter') rt ixs accounts).1.accounts.lookup k =
      (svm.processInstructionChain (cr.withOrder iter) rt ixs accounts).1.accounts.lookup k := by
  unfold processInstructionChain
  cases ho : svm.run (cr.withOrder iter) rt ixs accounts with
  | none =>
      rw [executeInner_of_none ho, executeInner_of_none (hrun.trans ho)]
      exact h.lookup_eq k
  | some o =>
      rw [executeInner_of_some ho, executeInner_of_some (hrun.trans ho)]
      cases hresult : o.rawResult with
      | error e =>
          simp only [settle, hresult]
          exact h.lookup_eq k
      | ok u =>
          -- What is committed last under a key is the last account that was merged under it.
          simp only [settle, hresult, if_true]
          rw [lookup_commitAccounts, lookup_commitAccounts, h.lastOf_eq]

theorem orderIrrelevant_of_agree (hagree : FallbacksAgree cr svm ixs accounts) :
    OrderIrrelevant cr svm ixs accounts := by
  intro rt iter iter' svm' horder horder' h
  have hrun : svm'.run (cr.withOrder iter') rt ixs accounts =
      svm.run (cr.withOrder iter) rt ixs accounts :=
    run_withOrder hagree horder horder' (h.sameView accounts)
  refine ⟨sameOutcome_of_run hrun (h.sameMerge accounts), store_withOrder h hrun, ?_⟩
  intro r r' hr hr'
  exact perm_report hrun (h.perm_mergedAccounts accounts) hr hr'

/-! ### Operations -/

/-- The operation does not depend on the order that its call draws. -/
def Settled (cr : Crates) (svm : QuasarSvm) : Operation → Prop
  | .execute ixs accounts _ => FallbacksAgree cr svm ixs accounts
  | _ => True

theorem operate_settled {op : Operation} (h : Settled cr svm op) (order order' : SetOrder) :
    svm.operate (cr.withOrder order.iter) rt op = svm.operate (cr.withOrder order'.iter) rt op := by
  cases op with
  | execute ixs accounts commit =>
      have hrun : svm.run (cr.withOrder order'.iter) rt ixs accounts =
          svm.run (cr.withOrder order.iter) rt ixs accounts :=
        run_withOrder h order.isSetOrder order'.isSetOrder ((Reordered.refl svm).sameView accounts)
      have hcall : svm.executeInner (cr.withOrder order.iter) rt ixs accounts commit =
          svm.executeInner (cr.withOrder order'.iter) rt ixs accounts commit := by
        cases ho : svm.run (cr.withOrder order.iter) rt ixs accounts with
        | none =>
            rw [executeInner_of_none ho, executeInner_of_none (hrun.trans ho)]
            rfl
        | some o =>
            rw [executeInner_of_some ho, executeInner_of_some (hrun.trans ho)]
            rfl
      simp only [operate, hcall]
  | _ => rfl

/-- Where every operation of a history is settled, it has one outcome. -/
theorem replies_of_settled {draws draws' : List Drawn}
    (hsame : draws.map Prod.fst = draws'.map Prod.fst)
    (h : ∀ p ∈ (drawnMachine cr rt).steps svm draws, Settled cr p.1 p.2.1) :
    (drawnMachine cr rt).replies svm draws = (drawnMachine cr rt).replies svm draws' :=
  congrArg Prod.snd (Machine.run_eq_of_settled (Q := Settled cr)
    (fun _ _ order order' hsettled => operate_settled hsettled order order') hsame h)

/-! ## Agreement is needed -/

/-- The order that lists one element last. -/
def orderLast (p : Pubkey) (l : List Pubkey) : List Pubkey :=
  if p ∈ l then l.dedup.erase p ++ [p] else l.dedup

theorem isSetOrder_orderLast (p : Pubkey) : IsSetOrder (orderLast p) := by
  intro l
  unfold orderLast
  by_cases hp : p ∈ l
  · -- The element is moved from its place to the end.
    have hperm : (l.dedup.erase p ++ [p]).Perm l.dedup :=
      (List.perm_append_singleton p _).trans (List.perm_cons_erase (List.mem_dedup.2 hp)).symm
    simp only [hp, if_true]
    exact ⟨hperm.nodup_iff.2 (List.nodup_dedup l), fun k => hperm.mem_iff.trans List.mem_dedup⟩
  · simp only [hp, if_false]
    exact ⟨List.nodup_dedup l, fun k => List.mem_dedup⟩

/-- Under that order the program's fallback accounts are inserted last. -/
theorem lastOf_fallbackPairs_orderLast {pid : Pubkey} (hpid : pid ∈ missingIds svm ixs accounts)
    {a : SolanaAccount} (ha : HashMap.lastOf k (svm.programFallbacks cr pid) = some a) :
    HashMap.lastOf k (fallbackPairs (cr.withOrder (orderLast pid)) svm ixs accounts) = some a := by
  rcases List.mem_filter.1 hpid with ⟨hmem, hmissing⟩
  have hmissing' : missingPrograms (cr.withOrder (orderLast pid)) svm ixs accounts =
      (((ixs.map Instruction.programId).dedup.erase pid).filter
        fun pid => pid ∉ (svm.mergedAccounts accounts).map Prod.fst) ++ [pid] := by
    have hiter : (cr.withOrder (orderLast pid)).hashSetIter (ixs.map Instruction.programId) =
        (ixs.map Instruction.programId).dedup.erase pid ++ [pid] := if_pos hmem
    have hlast : [pid].filter (fun pid => pid ∉ (svm.mergedAccounts accounts).map Prod.fst) =
        [pid] := List.filter_cons_of_pos hmissing
    rw [missingPrograms, hiter, List.filter_append, hlast]
  rw [fallbackPairs, hmissing']
  exact HashMap.lastOf_flatMap_concat _ ha

/-- A runtime that cannot prepare a transaction in which the key holds the given account. -/
def pickyRuntime (k : Pubkey) (a : SolanaAccount) : Runtime :=
  { Reference.idleRuntime with
    prepareTopLevelInstructions := fun _ ctx =>
      if ctx.findAccount k = some a then .error .unsupportedProgramId
      else .ok InstructionTrace.empty }

/-- Under that order the transaction has the program's account under the key. -/
theorem findAccount_orderLast {pid : Pubkey} {a : SolanaAccount}
    (hkey : k ∈ (cr.messageNew ixs).accountKeys) (hne : k ≠ cr.instructionsSysvarId)
    (hnot : ¬ Supplied svm accounts k) (hpid : pid ∈ missingIds svm ixs accounts)
    (ha : HashMap.lastOf k (svm.programFallbacks cr pid) = some a) :
    (svm.initialContext (cr.withOrder (orderLast pid)) ixs accounts).findAccount k = some a := by
  rw [findAccount_withOrder hkey, resolved_of_not_supplied hnot, lookup_fallbackPairs_withOrder hne,
    lastOf_fallbackPairs_orderLast hpid ha, Option.some_or, Option.getD_some]

/-- A call that panics and one that runs have different outcomes. -/
theorem not_sameOutcome_of_panic {cr' : Crates} {o : MessageOutcome}
    (hpanics : svm.run cr rt ixs accounts = none)
    (hruns : svm'.run cr' rt ixs accounts' = some o) :
    ¬ SameOutcome (svm.processInstructionChain cr rt ixs accounts)
      (svm'.processInstructionChain cr' rt ixs accounts') := by
  intro h
  have hresults := h.rawResult_eq
  unfold processInstructionChain at hresults
  rw [executeInner_of_none hpanics, executeInner_of_some hruns, settle] at hresults
  split at hresults
  · cases hresults
  · cases hresults

/-- Two missing programs with different accounts for a key make the outcome depend on which of them
comes last. -/
theorem agree_of_sameAnyOrder (hview : SameView svm svm' accounts accounts')
    (h : SameAnyOrder cr ixs svm accounts svm' accounts') : FallbacksAgree cr svm ixs accounts := by
  intro k hkey hne hnot p hp q hq a b ha hb
  by_contra hab
  -- The picky runtime panics when `p` comes last and runs when `q` does.
  have houtcome := h (pickyRuntime k a) (orderLast p) (orderLast q) svm' (isSetOrder_orderLast p)
    (isSetOrder_orderLast q) (Reordered.refl svm')
  have hpanics : svm.run (cr.withOrder (orderLast p)) (pickyRuntime k a) ixs accounts = none :=
    run_eq_none (e := .unsupportedProgramId)
      (if_pos (findAccount_orderLast hkey hne hnot hp ha))
  have hne' : ¬ (svm.initialContext (cr.withOrder (orderLast q)) ixs accounts).findAccount k =
      some a := by
    rw [findAccount_orderLast hkey hne hnot hq hb]
    exact fun heq => hab (Option.some.inj heq).symm
  have hprepare : (pickyRuntime k a).prepareTopLevelInstructions
      (svm.message (cr.withOrder (orderLast q)) ixs accounts)
      (svm.initialContext (cr.withOrder (orderLast q)) ixs accounts) =
        .ok InstructionTrace.empty := if_neg hne'
  exact not_sameOutcome_of_panic hpanics (hview.run_eq.trans (run_of_prepare hprepare)) houtcome

/-- Two calls that merge the same have the same outcome under any orders exactly when no two missing
programs have different fallback accounts for one key of the message. -/
theorem sameAnyOrder_iff_agree (hmerge : SameMerge svm svm' accounts accounts') :
    SameAnyOrder cr ixs svm accounts svm' accounts' ↔ FallbacksAgree cr svm ixs accounts :=
  ⟨agree_of_sameAnyOrder hmerge.view, fun hagree => sameAnyOrder_of_agree hagree hmerge⟩

theorem agree_of_orderIrrelevant (h : OrderIrrelevant cr svm ixs accounts) :
    FallbacksAgree cr svm ixs accounts := by
  have hview : SameView svm svm accounts accounts := (Reordered.refl svm).sameView accounts
  refine agree_of_sameAnyOrder hview ?_
  intro rt iter iter' svm'' horder horder' hreordered
  exact (h rt iter iter' svm'' horder horder' hreordered).outcome

/-- The outcome of a call depends on no iteration order exactly when no two missing programs have
different fallback accounts for one key of the message. -/
theorem orderIrrelevant_iff (cr : Crates) (svm : QuasarSvm) (ixs : List Instruction)
    (accounts : List Account) :
    OrderIrrelevant cr svm ixs accounts ↔ FallbacksAgree cr svm ixs accounts :=
  ⟨agree_of_orderIrrelevant, orderIrrelevant_of_agree⟩

/-! ## Passing and storing accounts -/

/-- Whether fallbacks agree is read off the view of the call. -/
theorem SameView.fallbacksAgree_iff (h : SameView svm svm' accounts accounts') :
    FallbacksAgree cr svm' ixs accounts' ↔ FallbacksAgree cr svm ixs accounts := by
  have hmissing : missingIds svm' ixs accounts' = missingIds svm ixs accounts :=
    List.filter_congr fun pid _ => by simp only [h.mem_keys_iff]
  have hfallbacks : svm'.programFallbacks cr = svm.programFallbacks cr :=
    funext h.programFallbacks_eq
  simp only [FallbacksAgree, h.supplied_iff, hmissing, hfallbacks]

/-- The fallbacks of a chain of one program agree. -/
theorem fallbacksAgree_of_single {pid : Pubkey} (h : ∀ ix ∈ ixs, ix.programId = pid) :
    FallbacksAgree cr svm ixs accounts := by
  intro k _ _ _ p hp q hq a b ha hb
  rcases mem_missingIds_iff.1 hp with ⟨⟨ix, hix, rfl⟩, _⟩
  rcases mem_missingIds_iff.1 hq with ⟨⟨ix', hix', rfl⟩, _⟩
  rw [h ix hix] at ha
  rw [h ix' hix'] at hb
  exact Option.some.inj (ha.symm.trans hb)

/-- Passing distinct accounts and storing them first have the same outcome, under whatever orders the
two calls draw, exactly when the fallbacks agree.  After every history, so do passing the accounts that
a successful call reported and passing none. -/
theorem passing_eq_storing_iff (cr : Crates) :
    (∀ (svm : QuasarSvm) (ixs : List Instruction) (accounts : List Account),
      (accounts.map Account.address).Nodup →
        (SameAnyOrder cr ixs svm accounts (accounts.foldl setAccount svm) [] ↔
          FallbacksAgree cr svm ixs accounts)) ∧
      ∀ rt, KeepsRentEpoch rt → ∀ svm, StoreNoRentEpoch svm → ∀ (draws : List Drawn)
        (order : SetOrder) (ixs : List Instruction) (accounts : List Account),
          (accounts.map Account.address).Nodup → ∀ svm' r,
            (svm.afterDrawn cr rt draws).processInstructionChain (cr.withOrder order.iter) rt ixs
              accounts = (svm', .ok r) → r.rawResult = .ok () → ∀ ixs',
                (SameAnyOrder cr ixs' svm' r.accounts svm' [] ↔ FallbacksAgree cr svm' ixs' []) := by
  refine ⟨?_, ?_⟩
  · intro svm ixs accounts hdistinct
    exact sameAnyOrder_iff_agree (sameMerge_setAccounts svm hdistinct)
  · intro rt hrt svm hnew draws order ixs accounts hdistinct svm' r hcall hok ixs'
    have hstate := storeNoRentEpoch_after cr hrt hnew draws
    have hmerge := sameMerge_reported hrt hstate hdistinct (congrArg Prod.snd hcall) hok
    rw [hcall] at hmerge
    exact (sameAnyOrder_iff_agree hmerge).trans hmerge.view.fallbacksAgree_iff.symm

/-- A call on one stored and one explicit account, both ways, and the call after it. -/
theorem passing_eq_storing_iff_two :
    SameAnyOrder Reference.crates [Reference.instructionOn (Pubkey.filled 9) [Pubkey.filled 2]]
        (Reference.emptyVm.setAccount (oneLamport (Pubkey.filled 1))) [oneLamport (Pubkey.filled 2)]
        ((Reference.emptyVm.setAccount (oneLamport (Pubkey.filled 1))).setAccount
          (oneLamport (Pubkey.filled 2))) [] ∧
      ∃ svm' r, (Reference.emptyVm.afterDrawn Reference.crates Reference.idleRuntime
          [(.setAccount (oneLamport (Pubkey.filled 1)), SetOrder.dedup)]).processInstructionChain
            (Reference.crates.withOrder SetOrder.dedup.iter) Reference.idleRuntime
            [Reference.instructionOn (Pubkey.filled 9) [Pubkey.filled 2]]
            [oneLamport (Pubkey.filled 2)] = (svm', .ok r) ∧
        SameAnyOrder Reference.crates [Reference.instructionOn (Pubkey.filled 9) [Pubkey.filled 2]]
          svm' r.accounts svm' [] := by
  rcases passing_eq_storing_iff Reference.crates with ⟨hstoring, hreported⟩
  have hsingle : ∀ ix ∈ [Reference.instructionOn (Pubkey.filled 9) [Pubkey.filled 2]],
      ix.programId = Pubkey.filled 9 := by
    intro ix hix
    rw [List.mem_singleton.1 hix]
    rfl
  refine ⟨(hstoring _ _ [oneLamport (Pubkey.filled 2)] (by decide)).2
    (fallbacksAgree_of_single hsingle), _, _,
    processInstructionChain_of_ok (run_of_prepare rfl) rfl, ?_⟩
  refine (hreported _ keepsRentEpoch_idle Reference.emptyVm ?_
    [(.setAccount (oneLamport (Pubkey.filled 1)), SetOrder.dedup)] SetOrder.dedup _
    [oneLamport (Pubkey.filled 2)] (by decide) _ _
    (processInstructionChain_of_ok (run_of_prepare rfl) rfl) rfl _).2
    (fallbacksAgree_of_single hsingle)
  intro k a ha
  cases ha

/-! ### A programdata account as a program -/

/-- The reference instance with one programdata address. -/
def programdataCrates : Crates :=
  { Reference.crates with findProgramAddress := fun _ _ => (Pubkey.filled 10, 255) }

/-- A VM with the loader-v3 program `9`, whose programdata account is `10`. -/
def upgradeableVm : QuasarSvm :=
  (Reference.emptyVm.addProgram programdataCrates (Pubkey.filled 9) (Pubkey.filled 234) [1]).1

/-- Calls of the program and of its programdata account. -/
def overlappingCalls : List Instruction :=
  [Reference.instructionOn (Pubkey.filled 9) [], Reference.instructionOn (Pubkey.filled 10) []]

/-- A runtime that runs executable accounts only. -/
def executableOnlyRuntime (k : Pubkey) : Runtime :=
  { Reference.idleRuntime with
    processInstruction := fun inp =>
      { Reference.idleRuntime.processInstruction inp with
        result :=
          if (inp.transactionContext.findAccount k).any SolanaAccount.executable then
            .ok ()
          else
            .error .unsupportedProgramId } }

/-- The call of a program's own programdata account succeeds or fails by the iteration order. -/
theorem order_decides :
    ¬ OrderIrrelevant programdataCrates upgradeableVm overlappingCalls [] ∧
      ((upgradeableVm.processInstructionChain (programdataCrates.withOrder (orderLast
          (Pubkey.filled 10))) (executableOnlyRuntime (Pubkey.filled 10)) overlappingCalls
            []).2.toOption.map ExecutionResult.rawResult) = some (.ok ()) ∧
      ((upgradeableVm.processInstructionChain (programdataCrates.withOrder (orderLast
          (Pubkey.filled 9))) (executableOnlyRuntime (Pubkey.filled 10)) overlappingCalls
            []).2.toOption.map ExecutionResult.rawResult) =
        some (.error .unsupportedProgramId) := by
  have hsucceeds : ((upgradeableVm.processInstructionChain (programdataCrates.withOrder (orderLast
      (Pubkey.filled 10))) (executableOnlyRuntime (Pubkey.filled 10)) overlappingCalls
        []).2.toOption.map ExecutionResult.rawResult) = some (.ok ()) := by
    decide
  have hfails : ((upgradeableVm.processInstructionChain (programdataCrates.withOrder (orderLast
      (Pubkey.filled 9))) (executableOnlyRuntime (Pubkey.filled 10)) overlappingCalls
        []).2.toOption.map ExecutionResult.rawResult) =
          some (.error .unsupportedProgramId) := by
    decide
  refine ⟨?_, hsucceeds, hfails⟩
  intro h
  have houtcome := (h (executableOnlyRuntime (Pubkey.filled 10)) (orderLast (Pubkey.filled 10))
    (orderLast (Pubkey.filled 9)) upgradeableVm (isSetOrder_orderLast _) (isSetOrder_orderLast _)
    (Reordered.refl upgradeableVm)).outcome
  cases hsucceeds.symm.trans (houtcome.rawResult_eq.symm.trans hfails)

/-- The same call with another account passed succeeds, and with that account stored first it fails,
when the two calls list the program ids in different orders. -/
theorem storing_first_decides :
    ([oneLamport (Pubkey.filled 5)].map Account.address).Nodup ∧
      ¬ SameAnyOrder programdataCrates overlappingCalls upgradeableVm [oneLamport (Pubkey.filled 5)]
        (upgradeableVm.setAccount (oneLamport (Pubkey.filled 5))) [] ∧
      ((upgradeableVm.processInstructionChain (programdataCrates.withOrder (orderLast
          (Pubkey.filled 10))) (executableOnlyRuntime (Pubkey.filled 10)) overlappingCalls
            [oneLamport (Pubkey.filled 5)]).2.toOption.map ExecutionResult.rawResult) =
        some (.ok ()) ∧
      (((upgradeableVm.setAccount (oneLamport (Pubkey.filled 5))).processInstructionChain
          (programdataCrates.withOrder (orderLast (Pubkey.filled 9)))
            (executableOnlyRuntime (Pubkey.filled 10)) overlappingCalls
              []).2.toOption.map ExecutionResult.rawResult) =
        some (.error .unsupportedProgramId) := by
  have hpassed : ((upgradeableVm.processInstructionChain (programdataCrates.withOrder (orderLast
      (Pubkey.filled 10))) (executableOnlyRuntime (Pubkey.filled 10)) overlappingCalls
        [oneLamport (Pubkey.filled 5)]).2.toOption.map ExecutionResult.rawResult) =
          some (.ok ()) := by
    decide
  have hstored : (((upgradeableVm.setAccount (oneLamport
      (Pubkey.filled 5))).processInstructionChain (programdataCrates.withOrder (orderLast
        (Pubkey.filled 9))) (executableOnlyRuntime (Pubkey.filled 10)) overlappingCalls
          []).2.toOption.map ExecutionResult.rawResult) = some (.error .unsupportedProgramId) := by
    decide
  refine ⟨by decide, ?_, hpassed, hstored⟩
  intro h
  have houtcome := h (executableOnlyRuntime (Pubkey.filled 10)) (orderLast (Pubkey.filled 10))
    (orderLast (Pubkey.filled 9)) _ (isSetOrder_orderLast _) (isSetOrder_orderLast _)
    (Reordered.refl _)
  cases hpassed.symm.trans (houtcome.rawResult_eq.symm.trans hstored)

end QuasarSvm
end Svm
end Quasar
