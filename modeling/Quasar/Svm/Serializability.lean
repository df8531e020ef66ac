import Quasar.Svm.Independence

/-!
# Serializability — executions under account locks

An execution looks for accounts only under the keys that its message names and those that are passed
to it, and a runtime that keeps to its locks changes only accounts that are locked for writing.  The
instructions sysvar is the exception: the runtime writes the current index into it.  A VM that stores
no account there and is given none never stores one.  On such a VM executions whose locks do not
conflict may change places, as may all other operations.
-/

namespace Quasar
namespace Svm

open Lib

/-- The keys under which an execution looks for accounts: those of its message, its programs, the
sysvars, and those that are passed to it. -/
def namedKeys (cr : Crates) (ixs : List Instruction) (accounts : List Account) : List Pubkey :=
  (cr.messageNew ixs).accountKeys ++ ixs.map Instruction.programId ++
    Sysvar.all.map cr.sysvarId ++ [cr.instructionsSysvarId] ++ accounts.map Account.address

theorem mem_namedKeys_iff {cr : Crates} {ixs : List Instruction} {accounts : List Account}
    {k : Pubkey} :
    k ∈ namedKeys cr ixs accounts ↔
      k ∈ (cr.messageNew ixs).accountKeys ∨ k ∈ ixs.map Instruction.programId ∨
        (∃ s ∈ Sysvar.all, cr.sysvarId s = k) ∨ k = cr.instructionsSysvarId ∨
          ∃ a ∈ accounts, a.address = k := by
  simp [namedKeys]

/-- What a message locks for writing, and the programs that it may deploy.  A successful instruction
leaves all other accounts of the transaction as they were, but for the instructions sysvar, and no
instruction stores other programs.  A transaction has the accounts of its message first. -/
structure Locks (instructionsSysvarId : Pubkey) (rt : Runtime) where
  writable : SanitizedMessage → Pubkey → Prop
  deploys : SanitizedMessage → Pubkey → Prop
  keeps : ∀ inp, inp.message.accountKeys <+: inp.transactionContext.accounts.map Prod.fst →
    (rt.processInstruction inp).result = .ok () →
    ∀ (i : ℕ) (p : Pubkey × SolanaAccount), inp.transactionContext.accounts[i]? = some p →
      p.1 ≠ instructionsSysvarId → ¬ writable inp.message p.1 →
        (rt.processInstruction inp).accountAfter i = p.2
  stores : ∀ inp, ∀ p ∈ (rt.processInstruction inp).storedPrograms, deploys inp.message p.1

namespace Operation

/-- An execution reads the accounts under its named keys, and everything else. -/
def LockReads (cr : Crates) : Operation → Resource → Prop
  | .execute ixs accounts _, .account k => k ∈ namedKeys cr ixs accounts
  | op, r => op.Reads r

/-- A committed execution writes the accounts that are passed to it and those that are locked for
writing; any execution writes the programs that it deploys. -/
def LockWrites {rt : Runtime} (cr : Crates) (locks : Locks cr.instructionsSysvarId rt) :
    Operation → Resource → Prop
  | .execute ixs accounts commit, .account k =>
      commit = true ∧ (¬ QuasarSvm.NotPassed accounts k ∨ locks.writable ⟨cr.messageNew ixs⟩ k)
  | .execute ixs _ _, .program id => locks.deploys ⟨cr.messageNew ixs⟩ id
  | op, r => op.Writes r

/-- The operation is given no account under the instructions sysvar. -/
def LeavesSysvar (cr : Crates) : Operation → Prop
  | .setAccount account => account.address ≠ cr.instructionsSysvarId
  | .airdrop pubkey _ => pubkey ≠ cr.instructionsSysvarId
  | .createAccount pubkey _ _ => pubkey ≠ cr.instructionsSysvarId
  | .execute _ accounts _ => QuasarSvm.NotPassed accounts cr.instructionsSysvarId
  | _ => True

end Operation

/-- What an operation reports of what it looks at: of an execution, how it went and the accounts under
its named keys. -/
def seen (cr : Crates) : Operation × Reply → Reply × (Pubkey → Option Account)
  -- The rows of other accounts show what the store holds elsewhere.
  | (.execute ixs accounts _, .executed (.ok r)) =>
      (.executed (.ok r.withoutRows),
        fun k => if k ∈ namedKeys cr ixs accounts then r.account k else none)
  | (_, reply) => (reply, fun _ => none)

namespace QuasarSvm

variable {cr : Crates} {rt : Runtime} {svm svm' : QuasarSvm} {ixs : List Instruction}
  {accounts : List Account} {k : Pubkey}

/-! ## Executions look under named keys only -/

/-- Two VMs that differ in what no execution of these instructions looks at. -/
structure SameNamed (cr : Crates) (ixs : List Instruction) (accounts : List Account)
    (svm svm' : QuasarSvm) : Prop where
  sysvars : svm'.sysvars = svm.sysvars
  programs : svm'.programCache = svm.programCache
  budget : svm'.computeBudget = svm.computeBudget
  named : ∀ k ∈ namedKeys cr ixs accounts, svm'.accounts.lookup k = svm.accounts.lookup k

theorem firstOf_merged_congr (h : svm'.accounts.lookup k = svm.accounts.lookup k) :
    HashMap.firstOf k (svm'.mergedAccounts accounts) =
      HashMap.firstOf k (svm.mergedAccounts accounts) := by
  rw [firstOf_mergedAccounts, firstOf_mergedAccounts, h]

theorem lastOf_merged_congr (h : svm'.accounts.lookup k = svm.accounts.lookup k) :
    HashMap.lastOf k (svm'.mergedAccounts accounts) =
      HashMap.lastOf k (svm.mergedAccounts accounts) := by
  rw [lastOf_mergedAccounts, lastOf_mergedAccounts, h]

theorem supplied_congr (h : svm'.accounts.lookup k = svm.accounts.lookup k) :
    Supplied svm' accounts k ↔ Supplied svm accounts k := by
  rw [Supplied, Supplied, getAccount, getAccount, h]

namespace SameNamed

theorem mem_merged_iff (h : SameNamed cr ixs accounts svm svm') (hk : k ∈ namedKeys cr ixs accounts) :
    k ∈ (svm'.mergedAccounts accounts).map Prod.fst ↔
      k ∈ (svm.mergedAccounts accounts).map Prod.fst := by
  rw [mem_mergedKeys_iff, mem_mergedKeys_iff]
  exact supplied_congr (h.named k hk)

/-- The same programs need fallbacks, and get the same ones. -/
theorem fallbackPairs_eq (horder : IsSetOrder cr.hashSetIter)
    (h : SameNamed cr ixs accounts svm svm') :
    fallbackPairs cr svm' ixs accounts = fallbackPairs cr svm ixs accounts := by
  have hmissing : missingPrograms cr svm' ixs accounts = missingPrograms cr svm ixs accounts := by
    -- An iteration order yields program ids only, and these are named keys.
    refine List.filter_congr ?_
    intro pid hpid
    have hprogram : pid ∈ ixs.map Instruction.programId := ((horder _).2 pid).1 hpid
    simp only [h.mem_merged_iff (mem_namedKeys_iff.2 (Or.inr (Or.inl hprogram)))]
  have hprogram : svm'.programFallbacks cr = svm.programFallbacks cr := by
    funext pid
    simp only [programFallbacks, h.programs]
  rw [fallbackPairs, fallbackPairs, hmissing, hprogram]

theorem resolved_eq (horder : IsSetOrder cr.hashSetIter) (h : SameNamed cr ixs accounts svm svm')
    (hk : k ∈ namedKeys cr ixs accounts) :
    resolved cr svm' ixs accounts k = resolved cr svm ixs accounts k := by
  have hfirst : HashMap.firstOf k (svm'.mergedAccounts accounts) =
      HashMap.firstOf k (svm.mergedAccounts accounts) := firstOf_merged_congr (h.named k hk)
  cases hmerged : HashMap.firstOf k (svm.mergedAccounts accounts) with
  | some a => rw [resolved_of_supplied hmerged, resolved_of_supplied (hfirst.trans hmerged)]
  | none =>
      have hnot := firstOf_mergedAccounts_eq_none_iff.1 hmerged
      have hnot' : ¬ Supplied svm' accounts k := firstOf_mergedAccounts_eq_none_iff.1
        (hfirst.trans hmerged)
      have hfallbacks : (fallbacks cr svm' ixs accounts).lookup k =
          (fallbacks cr svm ixs accounts).lookup k := by
        by_cases hsysvar : k = cr.instructionsSysvarId
        · -- This account is built from the instructions alone.
          subst hsysvar
          rw [lookup_fallbacks_sysvar hnot, lookup_fallbacks_sysvar hnot']
        · rw [lookup_fallbacks_of_ne hsysvar, lookup_fallbacks_of_ne hsysvar,
            h.fallbackPairs_eq horder]
      rw [resolved_of_not_supplied hnot, resolved_of_not_supplied hnot', hfallbacks, h.sysvars,
        h.programs]

/-- So the runtime is given the same. -/
theorem run_eq (horder : IsSetOrder cr.hashSetIter) (h : SameNamed cr ixs accounts svm svm') :
    svm'.run cr rt ixs accounts = svm.run cr rt ixs accounts := by
  have hinstructions : cr.instructionsSysvarId ∈ namedKeys cr ixs accounts :=
    mem_namedKeys_iff.2 (Or.inr (Or.inr (Or.inr (Or.inl rfl))))
  have hkeys : (cr.messageNew ixs).accountKeys.map (fun k => (k, resolved cr svm' ixs accounts k)) =
      (cr.messageNew ixs).accountKeys.map fun k => (k, resolved cr svm ixs accounts k) := by
    apply List.map_congr_left
    intro k hk
    rw [h.resolved_eq horder (mem_namedKeys_iff.2 (Or.inl hk))]
  have haccounts : (svm'.initialContext cr ixs accounts).accounts =
      (svm.initialContext cr ixs accounts).accounts := by
    rw [accounts_initialContext, accounts_initialContext, hkeys]
    simp only [h.mem_merged_iff hinstructions]
  refine run_congr rfl rfl (initialContext_congr haccounts h.sysvars h.budget) ?_
    (congrArg ProgramCache.cache h.programs) h.budget
  funext s
  have hsysvar : cr.sysvarId s ∈ namedKeys cr ixs accounts := by
    refine mem_namedKeys_iff.2 (Or.inr (Or.inr (Or.inl ⟨s, ?_, rfl⟩)))
    cases s with
    | _ => decide
  rw [setupSysvarCache_apply, setupSysvarCache_apply, firstOf_merged_congr (h.named _ hsysvar),
    h.sysvars]

end SameNamed

/-! ## Locks -/

/-- A run that ends well leaves every account as it was that is not locked for writing. -/
theorem getElem?_runInstructions {sysvar : Pubkey} (locks : Locks sysvar rt)
    (cixs : List CompiledInstruction) (ic : InvokeContext) (units : UInt64)
    (hkeys : ic.message.accountKeys <+: ic.transactionContext.accounts.map Prod.fst)
    (hok : (runInstructions rt cixs ic units).rawResult = .ok ()) {i : ℕ}
    {p : Pubkey × SolanaAccount} (hget : ic.transactionContext.accounts[i]? = some p)
    (hne : p.1 ≠ sysvar) (hlocked : ¬ locks.writable ic.message p.1) :
    (runInstructions rt cixs ic units).context.transactionContext.accounts[i]? = some p := by
  induction cixs generalizing ic units with
  | nil => exact hget
  | cons cix rest ih =>
      cases hresult : (rt.processInstruction ic.input).result with
      | error e =>
          rw [runInstructions_of_error hresult] at hok
          cases hok
      | ok u =>
          -- The keys of a context are fixed, so the next instruction has the same locks.
          rw [runInstructions_of_ok hresult] at hok ⊢
          have hnext : (ic.apply (rt.processInstruction ic.input)).message.accountKeys <+:
              (ic.apply
                (rt.processInstruction ic.input)).transactionContext.accounts.map Prod.fst := by
            rw [InvokeContext.keys_apply]
            exact hkeys
          apply ih _ _ hnext hok _ hlocked
          have hafter : (rt.processInstruction ic.input).accountAfter i = p.2 :=
            locks.keeps ic.input hkeys hresult i p hget hne hlocked
          simp only [InvokeContext.apply, InvokeContext.accountsAfter, List.getElem?_mapIdx, hget,
            Option.map_some, hafter]

/-- What a stored account ends as that is neither passed nor locked for writing. -/
theorem finalAccount_of_not_writable (locks : Locks cr.instructionsSysvarId rt) {o : MessageOutcome}
    (hrun : svm.run cr rt ixs accounts = some o) (hok : o.rawResult = .ok ())
    (hpassed : NotPassed accounts k) (hne : k ≠ cr.instructionsSysvarId)
    (hlocked : ¬ locks.writable ⟨cr.messageNew ixs⟩ k)
    {a : SolanaAccount} (ha : svm.accounts.lookup k = some a) : finalAccount o k a = a := by
  have hmerged : HashMap.firstOf k (svm.mergedAccounts accounts) = some a :=
    (firstOf_mergedAccounts_of_notPassed svm hpassed).trans ha
  by_cases hk : k ∈ (cr.messageNew ixs).accountKeys
  · -- The transaction has the stored account under the key, and no instruction changes it.
    rcases run_eq_some hrun with ⟨trace, _, ho⟩
    have hkept : o.context.transactionContext.findAccount k =
        (svm.initialContext cr ixs accounts).findAccount k := by
      have hkeys : (cr.messageNew ixs).accountKeys <+:
          (svm.initialContext cr ixs accounts).accounts.map Prod.fst := by
        rw [accounts_initialContext, List.map_append, List.map_map]
        simp [Function.comp_def]
      refine HashMap.firstOf_congr_of_getElem? (keys_of_run hrun) ?_
      rintro i p hp rfl
      rw [ho] at hok ⊢
      exact getElem?_runInstructions locks _ (svm.startContext cr ixs accounts trace) 0 hkeys hok hp
        hne hlocked
    rw [finalAccount, hkept, findAccount_of_mem_keys hk, resolved_of_supplied hmerged]
    rfl
  · -- The transaction does not have the key, and the merged account is reported.
    have hsupplied : Supplied svm accounts k := by
      apply mem_mergedKeys_iff.1
      apply HashMap.isSome_firstOf_iff.1
      rw [hmerged]
      rfl
    rw [finalAccount_eq_id hrun hsupplied hk]
    rfl

/-- The programs that an execution stores are those that its message may deploy. -/
theorem storedEntry_of_not_deploys {sysvar : Pubkey} (locks : Locks sysvar rt) (svm : QuasarSvm)
    (commit : Bool) {id : Pubkey} (h : ¬ locks.deploys ⟨cr.messageNew ixs⟩ id) :
    storedEntry cr rt id svm (.execute ixs accounts commit) = none := by
  have hrun : ∀ (cixs : List CompiledInstruction) (ic : InvokeContext),
      ic.message = ⟨cr.messageNew ixs⟩ → id ∉ (storedPrograms rt cixs ic).map Prod.fst := by
    intro cixs
    induction cixs with
    | nil => exact fun _ _ => List.not_mem_nil
    | cons cix rest ih =>
        intro ic hmessage
        have hone : id ∉ (rt.processInstruction ic.input).storedPrograms.map Prod.fst := by
          intro hmem
          rcases List.mem_map.1 hmem with ⟨p, hp, rfl⟩
          have hdeploys : locks.deploys ic.message p.1 := locks.stores ic.input p hp
          rw [hmessage] at hdeploys
          exact h hdeploys
        cases hresult : (rt.processInstruction ic.input).result with
        | error e =>
            simp only [storedPrograms, hresult]
            exact hone
        | ok u =>
            simp only [storedPrograms, hresult, List.map_append, List.mem_append, not_or]
            exact ⟨hone, ih (ic.apply _) hmessage⟩
  refine HashMap.lastOf_eq_none_iff.2 ?_
  unfold callStoredPrograms
  split
  · exact hrun _ _ rfl
  · exact List.not_mem_nil

/-! ## Executions under locks -/

/-- What an execution leaves under a key. -/
theorem lookup_executeInner (cr : Crates) (rt : Runtime) (svm : QuasarSvm) (ixs : List Instruction)
    (accounts : List Account) (commit : Bool) (k : Pubkey) :
    (svm.executeInner cr rt ixs accounts commit).1.accounts.lookup k =
      match svm.run cr rt ixs accounts with
      | some o =>
          if commit = true ∧ o.rawResult = .ok () then
            (HashMap.lastOf k (svm.mergedAccounts accounts)).map (finalAccount o k)
          else
            svm.accounts.lookup k
      | none => svm.accounts.lookup k := by
  have hexecution := executeInner_execution cr rt svm ixs accounts commit
  generalize svm.executeInner cr rt ixs accounts commit = out at hexecution
  cases hexecution with
  | panicked hrun =>
      rw [hrun]
      rfl
  | failed o e hrun hresult =>
      rw [hrun]
      have hnot : ¬ (commit = true ∧ o.rawResult = .ok ()) := by
        rintro ⟨_, hok⟩
        cases hresult.symm.trans hok
      exact (if_neg hnot).symm
  | succeeded o hrun hresult =>
      rw [hrun]
      cases commit with
      | false => exact (if_neg fun h => Bool.false_ne_true h.1).symm
      | true => exact (lookup_commitAccounts svm accounts o k).trans (if_pos ⟨rfl, hresult⟩).symm

/-- Two VMs that are the same at all that an execution reads run it alike. -/
theorem run_of_lockReads (horder : IsSetOrder cr.hashSetIter) (rt : Runtime) (commit : Bool)
    (h : ∀ r, (Operation.execute ixs accounts commit).LockReads cr r → SameAt r svm svm') :
    (svm.run cr rt ixs accounts = none ∧ svm'.run cr rt ixs accounts = none) ∨
      ∃ o o', svm.run cr rt ixs accounts = some o ∧ svm'.run cr rt ixs accounts = some o' ∧
        SameContexts o.context o'.context ∧
        o'.computeUnitsConsumed = o.computeUnitsConsumed ∧ o'.rawResult = o.rawResult := by
  -- Between the two stands the second one with the store of the first.
  have hbetween : ∀ r, SameAt r svm { svm' with accounts := svm.accounts } := by
    intro r
    cases r with
    | account k => rfl
    | program id => exact h (.program id) trivial
    | rent => exact h .rent trivial
    | time => exact h .time trivial
    | computeBudget => exact h .computeBudget trivial
  rcases sameAt_all_iff.1 hbetween with ⟨u, hprograms, hreordered⟩
  have hfirst : ({ svm' with accounts := svm.accounts } : QuasarSvm).run cr rt ixs accounts =
      u.run cr rt ixs accounts := (hreordered.sameView accounts).run_eq
  have hsame : SameNamed cr ixs accounts { svm' with accounts := svm.accounts } svm' :=
    { sysvars := rfl
      programs := rfl
      budget := rfl
      named := fun k hk => h (.account k) hk }
  rw [hsame.run_eq horder, hfirst]
  exact hprograms.run cr rt ixs accounts

/-- An execution writes accounts and programs only. -/
theorem sameAt_executed (cr : Crates) (rt : Runtime) (svm : QuasarSvm) (ixs : List Instruction)
    (accounts : List Account) (commit : Bool) {r : Resource} (haccount : ∀ k, r ≠ .account k)
    (hprogram : ∀ id, r ≠ .program id) :
    SameAt r svm (svm.executeInner cr rt ixs accounts commit).1 := by
  apply sameAt_frame cr rt svm (.execute ixs accounts commit)
  rintro (⟨id, hid⟩ | ⟨_, k, hk⟩)
  · exact hprogram id hid
  · exact haccount k hk

/-- An account that is not passed and not locked for writing stays as it was stored. -/
theorem lookup_executeInner_of_not_writable (cr : Crates) (locks : Locks cr.instructionsSysvarId rt)
    (hfree : svm.accounts.lookup cr.instructionsSysvarId = none) (commit : Bool)
    (hkept : commit = true → NotPassed accounts k ∧ ¬ locks.writable ⟨cr.messageNew ixs⟩ k) :
    (svm.executeInner cr rt ixs accounts commit).1.accounts.lookup k = svm.accounts.lookup k := by
  refine (lookup_executeInner cr rt svm ixs accounts commit k).trans ?_
  cases hrun : svm.run cr rt ixs accounts with
  | none => rfl
  | some o =>
      by_cases hcommits : commit = true ∧ o.rawResult = .ok ()
      · rcases hkept hcommits.1 with ⟨hpassed, hlocked⟩
        have hexplicit : HashMap.lastOf k (accounts.map Account.toPair) = none := by
          apply HashMap.lastOf_eq_none_iff.2
          intro hmem
          rcases mem_explicitKeys_iff.1 hmem with ⟨a, ha, hak⟩
          exact hpassed a ha hak
        -- The commit writes the merged accounts back, and this one is the stored account.
        refine (if_pos hcommits).trans ?_
        rw [lastOf_mergedAccounts, hexplicit, Option.none_or]
        cases hlookup : svm.accounts.lookup k with
        | none => rfl
        | some a =>
            have hne : k ≠ cr.instructionsSysvarId := by
              rintro rfl
              cases hfree.symm.trans hlookup
            rw [Option.map_some, finalAccount_of_not_writable locks hrun hcommits.2 hpassed hne
              hlocked hlookup]
      · -- A failed or simulated call writes nothing back.
        exact if_neg hcommits

/-- What an operation does not write under locks stays. -/
theorem sameAt_lock_frame (cr : Crates) (locks : Locks cr.instructionsSysvarId rt)
    (hfree : svm.accounts.lookup cr.instructionsSysvarId = none) (op : Operation) (r : Resource)
    (h : ¬ op.LockWrites cr locks r) : SameAt r svm (svm.operate cr rt op).1 := by
  cases op with
  | execute ixs accounts commit =>
      cases r with
      | account k =>
          refine lookup_executeInner_of_not_writable cr locks hfree commit fun hcommit => ?_
          refine ⟨?_, fun hlocked => h ⟨hcommit, Or.inr hlocked⟩⟩
          by_contra hpassed
          exact h ⟨hcommit, Or.inl hpassed⟩
      | program id =>
          rcases programCache_operate cr rt svm id (.execute ixs accounts commit) with
            ⟨hmodified, hbase, hrecorded⟩
          -- Only the modified entries can change, and only those that the message may deploy.
          have hnone : storedEntry cr rt id svm (.execute ixs accounts commit) = none :=
            storedEntry_of_not_deploys locks svm commit h
          rw [hnone, Option.none_or] at hmodified
          exact ⟨hmodified, hbase, hrecorded⟩
      | rent => exact sameAt_executed cr rt svm ixs accounts commit nofun nofun
      | time => exact sameAt_executed cr rt svm ixs accounts commit nofun nofun
      | computeBudget => exact sameAt_executed cr rt svm ixs accounts commit nofun nofun
  | _ => exact sameAt_frame cr rt svm _ r h

/-- The cache that an execution leaves. -/
theorem cache_executeInner (cr : Crates) (rt : Runtime) (svm : QuasarSvm) (ixs : List Instruction)
    (accounts : List Account) (commit : Bool) :
    (svm.executeInner cr rt ixs accounts commit).1.programCache.cache =
      match svm.run cr rt ixs accounts with
      | some o => o.context.programCache
      | none => svm.programCache.cache := by
  have hexecution := executeInner_execution cr rt svm ixs accounts commit
  generalize svm.executeInner cr rt ixs accounts commit = out at hexecution
  cases hexecution with
  | panicked hrun =>
      rw [hrun]
      rfl
  | failed o e hrun hresult =>
      rw [hrun]
      rfl
  | succeeded o hrun hresult =>
      rw [hrun]
      cases commit with
      | false => rfl
      | true => rfl

/-- What an operation reports is read off what it reads under locks. -/
theorem sameAt_lock_reply (cr : Crates) (horder : IsSetOrder cr.hashSetIter) (rt : Runtime)
    (svm svm' : QuasarSvm) (op : Operation)
    (h : ∀ r, op.LockReads cr r → SameAt r svm svm') :
    seen cr (op, (svm.operate cr rt op).2) = seen cr (op, (svm'.operate cr rt op).2) := by
  have hother : ¬ Executes op →
      (svm.operate cr rt op).2.unordered.1 = (svm'.operate cr rt op).2.unordered.1 := by
    intro hnot
    refine congrArg Prod.fst (sameAt_reply cr rt svm svm' op ?_)
    cases op with
    | execute ixs accounts commit => exact absurd trivial hnot
    | _ => exact h
  cases op with
  | execute ixs accounts commit =>
      change seen cr (_, .executed (svm.executeInner cr rt ixs accounts commit).2) =
        seen cr (_, .executed (svm'.executeInner cr rt ixs accounts commit).2)
      rcases run_of_lockReads horder rt commit h with ⟨hrun, hrun'⟩ |
        ⟨o, o', hrun, hrun', ⟨cache, _, hcontext⟩, hunits, hresult⟩
      · rw [executeInner_of_none hrun, executeInner_of_none hrun']
      · rw [executeInner_of_some hrun, executeInner_of_some hrun']
        have hmerged : ∀ k ∈ namedKeys cr ixs accounts,
            HashMap.firstOf k (svm'.mergedAccounts accounts) =
              HashMap.firstOf k (svm.mergedAccounts accounts) :=
          fun k hk => firstOf_merged_congr (h (.account k) hk)
        rcases o with ⟨ic, units, result⟩
        rcases o' with ⟨ic', units', result'⟩
        cases hcontext
        cases hunits
        cases hresult
        -- Apart from the cache the runs left the same behind.
        cases result with
        | error e =>
            refine Prod.ext rfl (funext fun k => ?_)
            simp only [seen, settle, account_report_eq]
            split
            · rename_i hk
              rw [hmerged k hk]
            · rfl
        | ok u =>
            refine Prod.ext rfl (funext fun k => ?_)
            simp only [seen, settle, account_report_eq, firstOf_resultingAccounts]
            split
            · rename_i hk
              rw [hmerged k hk]
              rfl
            · rfl
  | _ => exact congrArg (fun reply => (reply, fun _ => none)) (hother id)

/-- Of an account that was the same before, an execution leaves the same. -/
theorem lookup_executed_of_lockReads (horder : IsSetOrder cr.hashSetIter) (rt : Runtime)
    (commit : Bool)
    (h : ∀ q, (Operation.execute ixs accounts commit).LockReads cr q → SameAt q svm svm')
    (hk : svm'.accounts.lookup k = svm.accounts.lookup k) :
    (svm'.executeInner cr rt ixs accounts commit).1.accounts.lookup k =
      (svm.executeInner cr rt ixs accounts commit).1.accounts.lookup k := by
  have hlast : HashMap.lastOf k (svm'.mergedAccounts accounts) =
      HashMap.lastOf k (svm.mergedAccounts accounts) := lastOf_merged_congr hk
  rw [lookup_executeInner, lookup_executeInner, hlast, hk]
  rcases run_of_lockReads horder rt commit h with ⟨hrun, hrun'⟩ |
    ⟨o, o', hrun, hrun', ⟨cache, _, hcontext⟩, _, hresult⟩
  · rw [hrun, hrun']
  · have hfinal : finalAccount o' k = finalAccount o k := by
      unfold finalAccount
      rw [hcontext]
    simp only [hrun, hrun', hresult, hfinal]

/-- The batch caches that an execution leaves find the same programs. -/
theorem sameCaches_executed_of_lockReads (horder : IsSetOrder cr.hashSetIter) (rt : Runtime)
    (commit : Bool)
    (h : ∀ q, (Operation.execute ixs accounts commit).LockReads cr q → SameAt q svm svm') :
    SameCaches (svm.executeInner cr rt ixs accounts commit).1.programCache.cache
      (svm'.executeInner cr rt ixs accounts commit).1.programCache.cache := by
  rw [cache_executeInner, cache_executeInner]
  rcases run_of_lockReads horder rt commit h with ⟨hrun, hrun'⟩ |
    ⟨o, o', hrun, hrun', ⟨cache, hcache, hcontext⟩, _, _⟩
  · -- The instructions could not be prepared, and the caches are those from before.
    rw [hrun, hrun']
    intro id
    have hprogram : SameAt (.program id) svm svm' := h (.program id) trivial
    exact ⟨hprogram.1, hprogram.2.1⟩
  · rw [hrun, hrun']
    dsimp only
    rw [hcontext]
    exact hcache

/-- What it leaves behind is decided by what it reads under locks too. -/
theorem sameAt_lock_next (cr : Crates) (horder : IsSetOrder cr.hashSetIter) (rt : Runtime)
    (svm svm' : QuasarSvm) (op : Operation) (r : Resource)
    (h : ∀ q, op.LockReads cr q → SameAt q svm svm') (hr : SameAt r svm svm') :
    SameAt r (svm.operate cr rt op).1 (svm'.operate cr rt op).1 := by
  cases op with
  | execute ixs accounts commit =>
      -- What neither execution writes is the same afterwards because it was before.
      have hkept : (∀ k, r ≠ .account k) → (∀ id, r ≠ .program id) →
          SameAt r (svm.executeInner cr rt ixs accounts commit).1
            (svm'.executeInner cr rt ixs accounts commit).1 := by
        intro haccount hprogram
        have hleft := sameAt_executed cr rt svm ixs accounts commit haccount hprogram
        have hright := sameAt_executed cr rt svm' ixs accounts commit haccount hprogram
        have hsame := sameAt_equivalence r
        exact hsame.trans (hsame.symm hleft) (hsame.trans hr hright)
      cases r with
      | account k => exact lookup_executed_of_lockReads horder rt commit h hr
      | program id =>
          rcases programCache_operate cr rt svm id (.execute ixs accounts commit) with
            ⟨_, _, hrecorded⟩
          rcases programCache_operate cr rt svm' id (.execute ixs accounts commit) with
            ⟨_, _, hrecorded'⟩
          have hcaches := sameCaches_executed_of_lockReads horder rt commit h
          refine ⟨(hcaches id).1, (hcaches id).2, ?_⟩
          rw [hrecorded, hrecorded', hr.2.2]
      | rent => exact hkept nofun nofun
      | time => exact hkept nofun nofun
      | computeBudget => exact hkept nofun nofun
  | _ => exact sameAt_next cr rt svm svm' _ r h hr

/-- No operation that leaves the sysvar alone stores an account under it. -/
theorem lookup_sysvar_operate (cr : Crates)
    (hfree : svm.accounts.lookup cr.instructionsSysvarId = none)
    {op : Operation} (h : op.LeavesSysvar cr) :
    (svm.operate cr rt op).1.accounts.lookup cr.instructionsSysvarId = none := by
  by_cases hexecutes : Executes op
  · cases op with
    | execute ixs accounts commit =>
        have hexplicit : HashMap.lastOf cr.instructionsSysvarId (accounts.map Account.toPair) =
            none := by
          refine HashMap.lastOf_eq_none_iff.2 fun hmem => ?_
          rcases mem_explicitKeys_iff.1 hmem with ⟨a, ha, hak⟩
          exact h a ha hak
        refine (lookup_executeInner cr rt svm ixs accounts commit _).trans ?_
        rw [lastOf_mergedAccounts, hexplicit, Option.none_or, hfree]
        cases svm.run cr rt ixs accounts with
        | none => rfl
        | some o => exact ite_self _
    | _ => exact absurd hexecutes id
  · rw [lookup_operate cr rt svm _ hexecutes, hfree]
    cases op with
    | setAccount account => exact if_neg h
    | airdrop pubkey lamports => exact if_neg h
    | createAccount pubkey space owner => exact if_neg h
    | setTokenBalance address amount => exact ite_self _
    | setMintSupply address supply => exact ite_self _
    | _ => rfl

end QuasarSvm

/-! ## VMs without the instructions sysvar -/

/-- A VM that stores no account under the instructions sysvar. -/
structure LockedVm (cr : Crates) where
  vm : QuasarSvm
  free : vm.accounts.lookup cr.instructionsSysvarId = none

/-- An operation that is given none. -/
structure LockedCall (cr : Crates) where
  op : Operation
  leaves : op.LeavesSysvar cr

/-- The operations read or write what the other one locks. -/
def LockedCall.Conflicts {cr : Crates} {rt : Runtime} (locks : Locks cr.instructionsSysvarId rt) :
    LockedCall cr → LockedCall cr → Prop :=
  Machine.DependsOn (fun call => call.op.LockReads cr) fun call => call.op.LockWrites cr locks

namespace QuasarSvm

/-- The engine over such VMs and operations, fed an order with each; each reply stands beside the
operation that it answers. -/
def lockedMachine (cr : Crates) (rt : Runtime) :
    Machine (LockedVm cr) (LockedCall cr × SetOrder) (Operation × Reply) :=
  { step := fun svm d =>
      let out := svm.vm.operate (cr.withOrder d.2.iter) rt d.1.op
      ({ vm := out.1
         free := lookup_sysvar_operate (cr.withOrder d.2.iter) svm.free d.1.leaves },
        d.1.op, out.2) }

/-- What the operations read and write under the locks of the runtime, whatever orders they draw. -/
def lockFootprint (cr : Crates) (locks : Locks cr.instructionsSysvarId rt) :
    (lockedMachine cr rt).Footprint Resource (Reply × (Pubkey → Option Account)) :=
  { Same := fun r svm svm' => SameAt r svm.vm svm'.vm
    view := seen cr
    Reads := fun d => d.1.op.LockReads cr
    Writes := fun d => d.1.op.LockWrites cr locks
    same := fun r => (sameAt_equivalence r).comap LockedVm.vm
    frame := fun svm d =>
      sameAt_lock_frame (cr.withOrder d.2.iter) locks svm.free d.1.op
    reply := fun svm svm' d =>
      sameAt_lock_reply (cr.withOrder d.2.iter) d.2.isSetOrder rt svm.vm svm'.vm d.1.op
    next := fun svm svm' d =>
      sameAt_lock_next (cr.withOrder d.2.iter) d.2.isSetOrder rt svm.vm svm'.vm d.1.op }

/-! ## Histories -/

/-- Conflict serializability: take two histories of one VM that consist of the same operations, those
whose locks conflict in the same order.  Whatever the first one draws, the second one can draw orders
with which each operation reports the same of what it looks at, and with which the VMs that are left
reply alike to everything that follows, up to the order in which reports list accounts. -/
theorem serializable (locks : Locks cr.instructionsSysvarId rt) (svm : LockedVm cr)
    {calls calls' : List (LockedCall cr)} (h : SameOrder (LockedCall.Conflicts locks) calls calls')
    {draws : List (LockedCall cr × SetOrder)} (hdraws : draws.map Prod.fst = calls) :
    ∃ draws' : List (LockedCall cr × SetOrder), draws'.map Prod.fst = calls' ∧
      (∀ call, (lockFootprint cr locks).repliesTo Prod.fst call svm draws =
        (lockFootprint cr locks).repliesTo Prod.fst call svm draws') ∧
      ∀ more : List Drawn,
        ((drawnMachine cr rt).replies ((lockedMachine cr rt).after svm draws).vm more).map
            Reply.unordered =
          ((drawnMachine cr rt).replies ((lockedMachine cr rt).after svm draws').vm more).map
            Reply.unordered := by
  have hdepends : ∀ d d' : LockedCall cr × SetOrder, (lockFootprint cr locks).Depends d d' →
      LockedCall.Conflicts locks d.1 d'.1 := fun _ _ h => h
  have hruns := Machine.Footprint.exists_alikeRuns_of_sameOrder hdepends (fun _ _ h => h.symm) h
    (Machine.Footprint.Alike.refl svm) hdraws
  rcases hruns with ⟨draws', hdraws', halike, hreplies⟩
  have hvms : (footprint cr rt).Alike ((lockedMachine cr rt).after svm draws).vm
      ((lockedMachine cr rt).after svm draws').vm := halike
  exact ⟨draws', hdraws', hreplies, fun more => hvms.replies_eq more⟩

/-! ### Two transfers -/

/-- The accounts that the header of a message does not count as read-only. -/
def lockedKeys (m : Message) : List Pubkey :=
  let signed := m.header.numRequiredSignatures.toNat
  let readonlySigned := m.header.numReadonlySignedAccounts.toNat
  let readonlyUnsigned := m.header.numReadonlyUnsignedAccounts.toNat
  m.accountKeys.take (signed - readonlySigned) ++
    (m.accountKeys.drop signed).take (m.accountKeys.length - signed - readonlyUnsigned)

/-- A runtime that puts back what is not locked for writing, but for the instructions sysvar, and
stores no programs. -/
def keepingLocks (instructionsSysvarId : Pubkey) (rt : Runtime) : Runtime :=
  { rt with
    processInstruction := fun inp =>
      let o := rt.processInstruction inp
      { o with
        accountAfter := fun i =>
          match inp.transactionContext.accounts[i]? with
          | some p =>
              if p.1 = instructionsSysvarId ∨ p.1 ∈ lockedKeys inp.message.message then
                o.accountAfter i
              else
                p.2
          | none => o.accountAfter i
        storedPrograms := [] } }

def headerLocks (sysvar : Pubkey) (rt : Runtime) : Locks sysvar (keepingLocks sysvar rt) :=
  { writable := fun m k => k ∈ lockedKeys m.message
    deploys := fun _ _ => False
    keeps := by
      intro inp _ _ i p hget hne hlocked
      simp only [keepingLocks, hget, hne, hlocked, or_self, if_false]
    stores := fun _ _ hp => absurd hp List.not_mem_nil }

/-- An execution under these locks writes accounts only. -/
theorem lockWrites_headerLocks {cr : Crates} {rt : Runtime} {ixs : List Instruction} {r : Resource}
    (h : (Operation.execute ixs [] true).LockWrites cr (headerLocks cr.instructionsSysvarId rt) r) :
    ∃ k ∈ lockedKeys (cr.messageNew ixs), r = .account k := by
  cases r with
  | account k =>
      rcases h with ⟨_, hpassed | hlocked⟩
      · exact absurd (fun a ha => absurd ha List.not_mem_nil) hpassed
      · exact ⟨k, hlocked, rfl⟩
  | program id => exact False.elim h
  | _ =>
      rcases h with ⟨id, hid⟩ | ⟨_, k, hk⟩
      · cases hid
      · cases hk

/-- The transfer between two other accounts and under another program. -/
def otherTransfer : Instruction :=
  { programId := Pubkey.filled 8
    accounts :=
      [{ pubkey := Pubkey.filled 3
         isSigner := true
         isWritable := true },
       { pubkey := Pubkey.filled 4
         isSigner := false
         isWritable := true }]
    data := [] }

def walletsVm : LockedVm Reference.crates :=
  { vm :=
      ((Reference.payerVm.setAccount (Reference.walletOf (Pubkey.filled 2))).setAccount
        (Reference.walletOf (Pubkey.filled 3))).setAccount (Reference.walletOf (Pubkey.filled 4))
    free := by decide }

def transferCall (ix : Instruction) : LockedCall Reference.crates :=
  { op := .execute [ix] [] true
    leaves := fun _ ha => absurd ha List.not_mem_nil }

theorem serializable_sample :
    let sysvar := Reference.crates.instructionsSysvarId
    let rt := keepingLocks sysvar Reference.transferRuntime
    let fp := lockFootprint Reference.crates (headerLocks sysvar Reference.transferRuntime)
    let draws := [(transferCall Reference.transferInstruction, SetOrder.dedup),
      (transferCall otherTransfer, SetOrder.dedup)]
    ∃ draws', draws'.map Prod.fst =
        [transferCall otherTransfer, transferCall Reference.transferInstruction] ∧
      (∀ call, fp.repliesTo Prod.fst call walletsVm draws =
        fp.repliesTo Prod.fst call walletsVm draws') ∧
      ∀ more : List Drawn,
        ((drawnMachine Reference.crates rt).replies
            ((lockedMachine Reference.crates rt).after walletsVm draws).vm more).map
              Reply.unordered =
          ((drawnMachine Reference.crates rt).replies
            ((lockedMachine Reference.crates rt).after walletsVm draws').vm more).map
              Reply.unordered := by
  have hfirst : ∀ k ∈ lockedKeys (Reference.crates.messageNew [Reference.transferInstruction]),
      k ∉ namedKeys Reference.crates [otherTransfer] [] := by decide
  have hsecond : ∀ k ∈ lockedKeys (Reference.crates.messageNew [otherTransfer]),
      k ∉ namedKeys Reference.crates [Reference.transferInstruction] [] ∧
        k ∉ lockedKeys (Reference.crates.messageNew [Reference.transferInstruction]) := by
    decide
  have hindependent : ¬ LockedCall.Conflicts
      (headerLocks Reference.crates.instructionsSysvarId Reference.transferRuntime)
      (transferCall Reference.transferInstruction) (transferCall otherTransfer) := by
    rintro ⟨r, ⟨hwrites, hother⟩ | ⟨hwrites, hreads⟩⟩
    · rcases lockWrites_headerLocks hwrites with ⟨k, hk, rfl⟩
      rcases hother with hreads | hwrites'
      · exact hfirst k hk hreads
      · rcases lockWrites_headerLocks hwrites' with ⟨k', hk', hr⟩
        cases hr
        exact (hsecond k hk').2 hk
    · rcases lockWrites_headerLocks hwrites with ⟨k, hk, rfl⟩
      exact (hsecond k hk).1 hreads
  exact serializable _ walletsVm
    ((Reordering.swap _ _ [] hindependent).sameOrder fun _ _ h => h.symm) rfl

end QuasarSvm
end Svm
end Quasar
