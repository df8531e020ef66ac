import Quasar.Svm.Execution

/-!
# Resolution — where the accounts of a transaction come from

The merged list is consulted by address, and its first account of an address counts.  A key that
the caller did not supply resolves to a fallback account, to a sysvar account, to a program of the
cache or to the empty account, in this order.
-/

namespace Quasar
namespace Svm
namespace QuasarSvm

open Lib

variable {cr : Crates} {rt : Runtime} {svm svm' : QuasarSvm} {ixs : List Instruction}
  {accounts accounts' : List Account} {k : Pubkey}

/-! ## The merged list -/

/-- An address the caller supplied: it is stored, or passed explicitly. -/
def Supplied (svm : QuasarSvm) (accounts : List Account) (k : Pubkey) : Prop :=
  (svm.getAccount k).isSome ∨ ∃ a ∈ accounts, a.address = k

theorem map_fst_toPair (accounts : List Account) :
    (accounts.map Account.toPair).map Prod.fst = accounts.map Account.address := by
  simp [Function.comp_def]

theorem mem_explicitKeys_iff :
    k ∈ (accounts.map Account.toPair).map Prod.fst ↔ ∃ a ∈ accounts, a.address = k := by
  simp [List.mem_map]

/-- The stored accounts that no explicit account stands in for. -/
theorem firstOf_stored (svm : QuasarSvm) (accounts : List Account) (k : Pubkey) :
    HashMap.firstOf k ((HashMap.toPairs svm.accounts).filter
        fun p => p.1 ∉ (accounts.map Account.toPair).map Prod.fst) =
      if k ∈ (accounts.map Account.toPair).map Prod.fst then none else svm.accounts.lookup k := by
  refine (HashMap.firstOf_filter
    (fun k => decide (k ∉ (accounts.map Account.toPair).map Prod.fst)) k _).trans ?_
  by_cases hk : k ∈ (accounts.map Account.toPair).map Prod.fst
  · simp only [hk, not_true_eq_false, decide_false, if_true, Bool.false_eq_true, if_false]
  · simp only [hk, not_false_eq_true, decide_true, if_true, if_false, HashMap.firstOf_toPairs]

/-- What is merged under an address: its first explicit account, or else the stored one. -/
theorem firstOf_mergedAccounts (svm : QuasarSvm) (accounts : List Account) (k : Pubkey) :
    HashMap.firstOf k (svm.mergedAccounts accounts) =
      (HashMap.firstOf k (accounts.map Account.toPair)).or (svm.accounts.lookup k) := by
  rw [mergedAccounts, mergeAccounts, HashMap.firstOf_append, firstOf_stored]
  by_cases hk : k ∈ (accounts.map Account.toPair).map Prod.fst
  · rcases Option.isSome_iff_exists.1 (HashMap.isSome_firstOf_iff.2 hk) with ⟨a, ha⟩
    simp only [hk, ha, if_true, Option.none_or, Option.some_or]
  · have hnone := HashMap.firstOf_eq_none_iff.2 hk
    simp only [hk, hnone, if_false, Option.or_none, Option.none_or]

/-- The last account that is merged under an address: its last explicit one, or the stored one. -/
theorem lastOf_mergedAccounts (svm : QuasarSvm) (accounts : List Account) (k : Pubkey) :
    HashMap.lastOf k (svm.mergedAccounts accounts) =
      (HashMap.lastOf k (accounts.map Account.toPair)).or (svm.accounts.lookup k) := by
  -- The store has each address once, so its first account is its last.
  have hnodup : (((HashMap.toPairs svm.accounts).filter
      fun p => p.1 ∉ (accounts.map Account.toPair).map Prod.fst).map Prod.fst).Nodup :=
    (HashMap.nodup_keys_toPairs svm.accounts).sublist (List.filter_sublist.map Prod.fst)
  rw [mergedAccounts, mergeAccounts, HashMap.lastOf_append,
    HashMap.lastOf_eq_firstOf_of_nodup hnodup, firstOf_stored]
  by_cases hk : k ∈ (accounts.map Account.toPair).map Prod.fst
  · rcases HashMap.exists_lastOf hk with ⟨a, ha, _⟩
    simp only [hk, ha, if_true, Option.some_or]
  · simp only [hk, if_false]

theorem mem_mergedKeys_iff :
    k ∈ (svm.mergedAccounts accounts).map Prod.fst ↔ Supplied svm accounts k := by
  rw [← HashMap.isSome_firstOf_iff, firstOf_mergedAccounts, Option.isSome_or, Bool.or_eq_true,
    HashMap.isSome_firstOf_iff, mem_explicitKeys_iff, Supplied, getAccount, Option.isSome_map]
  exact or_comm

theorem firstOf_mergedAccounts_eq_none_iff :
    HashMap.firstOf k (svm.mergedAccounts accounts) = none ↔ ¬ Supplied svm accounts k := by
  rw [HashMap.firstOf_eq_none_iff, mem_mergedKeys_iff]

/-- The caller passes no account of the address. -/
def NotPassed (accounts : List Account) (k : Pubkey) : Prop :=
  ∀ a ∈ accounts, a.address ≠ k

instance (accounts : List Account) (k : Pubkey) : Decidable (NotPassed accounts k) :=
  inferInstanceAs (Decidable (∀ a ∈ accounts, a.address ≠ k))

theorem firstOf_mergedAccounts_of_notPassed (svm : QuasarSvm) (h : NotPassed accounts k) :
    HashMap.firstOf k (svm.mergedAccounts accounts) = svm.accounts.lookup k := by
  have hnone : HashMap.firstOf k (accounts.map Account.toPair) = none := by
    refine HashMap.firstOf_eq_none_iff.2 ?_
    intro hmem
    rcases mem_explicitKeys_iff.1 hmem with ⟨a, ha, hak⟩
    exact h a ha hak
  rw [firstOf_mergedAccounts, hnone, Option.none_or]

/-! ## Messages -/

/-- A compiled message has exactly the keys that its instructions mention, each once. -/
structure MessageKeys (cr : Crates) : Prop where
  mem_iff : ∀ ixs k, k ∈ (cr.messageNew ixs).accountKeys ↔
    ∃ ix ∈ ixs, ix.programId = k ∨ ∃ m ∈ ix.accounts, m.pubkey = k
  nodup : ∀ ixs, (cr.messageNew ixs).accountKeys.Nodup

/-! ## Fallbacks -/

/-- An iteration order of hash sets: each element of the list once, and nothing else. -/
def IsSetOrder (iter : List Pubkey → List Pubkey) : Prop :=
  ∀ l, (iter l).Nodup ∧ ∀ k, k ∈ iter l ↔ k ∈ l

/-- The top-level programs that nobody supplied, in the iteration order of the program-id set. -/
def missingPrograms (cr : Crates) (svm : QuasarSvm) (ixs : List Instruction)
    (accounts : List Account) : List Pubkey :=
  (cr.hashSetIter (ixs.map Instruction.programId)).filter
    fun pid => pid ∉ (svm.mergedAccounts accounts).map Prod.fst

/-- The fallback accounts of the missing programs, in the order in which they are inserted. -/
def fallbackPairs (cr : Crates) (svm : QuasarSvm) (ixs : List Instruction)
    (accounts : List Account) : List (Pubkey × SolanaAccount) :=
  (missingPrograms cr svm ixs accounts).flatMap (svm.programFallbacks cr)

theorem mem_missingPrograms_iff (horder : IsSetOrder cr.hashSetIter) {pid : Pubkey} :
    pid ∈ missingPrograms cr svm ixs accounts ↔
      (∃ ix ∈ ixs, ix.programId = pid) ∧ ¬ Supplied svm accounts pid := by
  simp [missingPrograms, (horder _).2, ← mem_mergedKeys_iff]

theorem lookup_buildFallbacks (k : Pubkey) :
    (svm.buildFallbacks cr ixs (svm.mergedAccounts accounts)).lookup k =
      HashMap.lastOf k (fallbackPairs cr svm ixs accounts) := by
  have hfold := HashMap.foldl_insertAll (svm.programFallbacks cr) ∅
    (missingPrograms cr svm ixs accounts)
  have hlookup := HashMap.lookup_insertAll ∅ (fallbackPairs cr svm ixs accounts) k
  calc (svm.buildFallbacks cr ixs (svm.mergedAccounts accounts)).lookup k
      = (HashMap.insertAll ∅ (fallbackPairs cr svm ixs accounts)).lookup k :=
        congrArg (AList.lookup k) hfold
    _ = HashMap.lastOf k (fallbackPairs cr svm ixs accounts) := by simpa using hlookup

/-- The map that the keys of the message fall back to. -/
def fallbacks (cr : Crates) (svm : QuasarSvm) (ixs : List Instruction) (accounts : List Account) :
    HashMap Pubkey SolanaAccount :=
  if cr.instructionsSysvarId ∈ (svm.mergedAccounts accounts).map Prod.fst then
    svm.buildFallbacks cr ixs (svm.mergedAccounts accounts)
  else
    (svm.buildFallbacks cr ixs (svm.mergedAccounts accounts)).insert
      (buildInstructionsSysvar cr ixs).1 (buildInstructionsSysvar cr ixs).2

/-- The instructions sysvar of the call stands in front of every fallback of its address. -/
theorem lookup_fallbacks_sysvar (h : ¬ Supplied svm accounts cr.instructionsSysvarId) :
    (fallbacks cr svm ixs accounts).lookup cr.instructionsSysvarId =
      some (buildInstructionsSysvar cr ixs).2 := by
  rw [fallbacks, if_neg fun hmem => h (mem_mergedKeys_iff.1 hmem)]
  exact AList.lookup_insert _

theorem lookup_fallbacks_of_ne (h : k ≠ cr.instructionsSysvarId) :
    (fallbacks cr svm ixs accounts).lookup k =
      HashMap.lastOf k (fallbackPairs cr svm ixs accounts) := by
  rw [← lookup_buildFallbacks, fallbacks]
  by_cases hmem : cr.instructionsSysvarId ∈ (svm.mergedAccounts accounts).map Prod.fst
  · rw [if_pos hmem]
  · rw [if_neg hmem]
    exact AList.lookup_insert_ne h

/-- The address of a loader-v3 program's programdata account. -/
def programdataAddress (cr : Crates) (pid : Pubkey) : Pubkey :=
  (cr.findProgramAddress [pid.bytes] cr.loaderV3Id).1

/-- A program that the cache knows has its own account and, for loader v3, a programdata account. -/
theorem keys_maybeCreateProgramAccounts (cr : Crates) (pc : ProgramCache) (pid : Pubkey) :
    (pc.maybeCreateProgramAccounts cr pid).map Prod.fst = [] ∨
      (pc.maybeCreateProgramAccounts cr pid).map Prod.fst = [pid] ∨
        (pc.maybeCreateProgramAccounts cr pid).map Prod.fst = [pid, programdataAddress cr pid] := by
  unfold ProgramCache.maybeCreateProgramAccounts
  cases pc.entries.lookup pid with
  | none => exact Or.inl rfl
  | some entry =>
      refine Or.inr ?_
      dsimp only
      split_ifs with hnative hv2 hv3
      · exact Or.inl rfl
      · exact Or.inl rfl
      · exact Or.inr rfl
      · exact Or.inl rfl

theorem keys_programFallbacks (cr : Crates) (svm : QuasarSvm) (pid : Pubkey) :
    (svm.programFallbacks cr pid).map Prod.fst = [pid] ∨
      (svm.programFallbacks cr pid).map Prod.fst = [pid, programdataAddress cr pid] := by
  unfold programFallbacks
  cases hprogram : svm.programCache.maybeCreateProgramAccounts cr pid with
  | nil => exact Or.inl rfl
  | cons p ps =>
      rcases keys_maybeCreateProgramAccounts cr svm.programCache pid with h | h
      · simp [hprogram] at h
      · simpa [hprogram] using h

theorem mem_programFallbacks {pid : Pubkey} {p : Pubkey × SolanaAccount}
    (h : p ∈ svm.programFallbacks cr pid) : p.1 = pid ∨ p.1 = programdataAddress cr pid := by
  have hkey : p.1 ∈ (svm.programFallbacks cr pid).map Prod.fst := List.mem_map.2 ⟨p, h, rfl⟩
  rcases keys_programFallbacks cr svm pid with hkeys | hkeys
  · rw [hkeys] at hkey
    exact Or.inl (List.mem_singleton.1 hkey)
  · rw [hkeys] at hkey
    simpa using hkey

/-- An address that is neither a top-level program's nor a programdata account's has no fallback. -/
theorem lastOf_fallbackPairs_eq_none (horder : IsSetOrder cr.hashSetIter)
    (h : ∀ ix ∈ ixs, ix.programId ≠ k ∧ programdataAddress cr ix.programId ≠ k) :
    HashMap.lastOf k (fallbackPairs cr svm ixs accounts) = none := by
  refine HashMap.lastOf_eq_none_iff.2 ?_
  intro hmem
  rcases List.mem_map.1 hmem with ⟨p, hp, rfl⟩
  rcases List.mem_flatMap.1 hp with ⟨pid, hpid, hp⟩
  rcases ((mem_missingPrograms_iff horder).1 hpid).1 with ⟨ix, hix, rfl⟩
  rcases mem_programFallbacks hp with hkey | hkey
  · exact (h ix hix).1 hkey.symm
  · exact (h ix hix).2 hkey.symm

/-! ## Resolving -/

/-- The account that a key of the message resolves to. -/
def resolved (cr : Crates) (svm : QuasarSvm) (ixs : List Instruction) (accounts : List Account)
    (k : Pubkey) : SolanaAccount :=
  svm.resolveAccount cr (svm.mergedAccounts accounts) (fallbacks cr svm ixs accounts) k

theorem resolved_of_supplied {a : SolanaAccount}
    (h : HashMap.firstOf k (svm.mergedAccounts accounts) = some a) :
    resolved cr svm ixs accounts k = a := by
  rcases Option.map_eq_some_iff.1 h with ⟨p, hp, rfl⟩
  simp only [resolved, resolveAccount, hp]

/-- What a key resolves to that was not supplied. -/
theorem resolved_of_not_supplied (h : ¬ Supplied svm accounts k) :
    resolved cr svm ixs accounts k =
      (((fallbacks cr svm ixs accounts).lookup k).or
        ((svm.sysvars.maybeCreateSysvarAccount cr k).or
          (HashMap.firstOf k (svm.programCache.maybeCreateProgramAccounts cr k)))).getD
        SolanaAccount.default := by
  have hfind := Option.map_eq_none_iff.1 (firstOf_mergedAccounts_eq_none_iff.2 h)
  unfold resolved resolveAccount HashMap.firstOf
  simp only [hfind]
  cases (fallbacks cr svm ixs accounts).lookup k with
  | some a => rfl
  | none =>
      cases svm.sysvars.maybeCreateSysvarAccount cr k with
      | some a => rfl
      | none =>
          cases (svm.programCache.maybeCreateProgramAccounts cr k).find? fun p => p.1 = k with
          | some p => rfl
          | none => rfl

/-! ## The transaction's accounts -/

/-- The accounts of a transaction: one for each key of the message, and then the instructions
sysvar unless it was supplied. -/
theorem accounts_initialContext (cr : Crates) (svm : QuasarSvm) (ixs : List Instruction)
    (accounts : List Account) :
    (svm.initialContext cr ixs accounts).accounts =
      (cr.messageNew ixs).accountKeys.map (fun k => (k, resolved cr svm ixs accounts k)) ++
        if cr.instructionsSysvarId ∈ (svm.mergedAccounts accounts).map Prod.fst then []
        else [buildInstructionsSysvar cr ixs] := by
  change (svm.compileAccounts cr ixs (svm.mergedAccounts accounts)).2 = _
  unfold compileAccounts resolved fallbacks
  by_cases hmem : cr.instructionsSysvarId ∈ (svm.mergedAccounts accounts).map Prod.fst
  · simp only [hmem, if_true, List.append_nil]
    rfl
  · simp only [hmem, if_false]
    rfl

theorem findAccount_of_mem_keys (h : k ∈ (cr.messageNew ixs).accountKeys) :
    (svm.initialContext cr ixs accounts).findAccount k =
      some (resolved cr svm ixs accounts k) := by
  change HashMap.firstOf k (svm.initialContext cr ixs accounts).accounts = _
  rw [accounts_initialContext, HashMap.firstOf_append]
  have hkeys : HashMap.firstOf k ((cr.messageNew ixs).accountKeys.map
      fun k => (k, resolved cr svm ixs accounts k)) = some (resolved cr svm ixs accounts k) := by
    have hmem : k ∈ ((cr.messageNew ixs).accountKeys.map
        fun k => (k, resolved cr svm ixs accounts k)).map Prod.fst := by
      simpa [Function.comp_def] using h
    rcases Option.isSome_iff_exists.1 (HashMap.isSome_firstOf_iff.2 hmem) with ⟨a, ha⟩
    rcases List.mem_map.1 (HashMap.mem_of_firstOf ha) with ⟨k', _, hpair⟩
    cases hpair
    exact ha
  rw [hkeys, Option.some_or]

/-- The one key that a transaction can have beside those of its message. -/
theorem findAccount_of_not_mem_keys (h : k ∉ (cr.messageNew ixs).accountKeys) :
    (svm.initialContext cr ixs accounts).findAccount k =
      if k = cr.instructionsSysvarId ∧ k ∉ (svm.mergedAccounts accounts).map Prod.fst then
        some (buildInstructionsSysvar cr ixs).2
      else none := by
  change HashMap.firstOf k (svm.initialContext cr ixs accounts).accounts = _
  have hkeys : HashMap.firstOf k ((cr.messageNew ixs).accountKeys.map
      fun k => (k, resolved cr svm ixs accounts k)) = none := by
    refine HashMap.firstOf_eq_none_iff.2 ?_
    simpa [Function.comp_def] using h
  rw [accounts_initialContext, HashMap.firstOf_append, hkeys, Option.none_or]
  by_cases hk : k = cr.instructionsSysvarId
  · subst hk
    by_cases hmem : cr.instructionsSysvarId ∈ (svm.mergedAccounts accounts).map Prod.fst
    · simp only [hmem, if_true, not_true_eq_false, and_false, if_false, HashMap.firstOf_nil]
    · simp only [hmem, if_false, not_false_eq_true, and_true, if_true]
      simp only [HashMap.firstOf_cons, buildInstructionsSysvar, if_true]
  · have hne : ¬ (buildInstructionsSysvar cr ixs).1 = k := fun heq => hk heq.symm
    simp only [hk, false_and, if_false]
    by_cases hmem : cr.instructionsSysvarId ∈ (svm.mergedAccounts accounts).map Prod.fst
    · simp only [hmem, if_true, HashMap.firstOf_nil]
    · simp only [hmem, if_false, HashMap.firstOf_cons, hne, HashMap.firstOf_nil]

/-! ## What the runtime is given -/

/-- The sysvar cache keeps what is merged under a sysvar's id when it decodes, and else the engine's
own value. -/
theorem setupSysvarCache_apply (sv : Sysvars) (merged : List (Pubkey × SolanaAccount))
    (s : Sysvar) :
    sv.setupSysvarCache cr merged s =
      (((HashMap.firstOf (cr.sysvarId s) merged).map SolanaAccount.data).filter
          (cr.sysvarDecodes s)).or
        (((Sysvar.all.find? fun s' => cr.sysvarId s = cr.sysvarId s').map
          fun s' => cr.serializeSysvar (sv.get s')).filter (cr.sysvarDecodes s)) := by
  have hmap : (merged.find? fun p => p.1 = cr.sysvarId s).map (fun p => p.2.data) =
      (HashMap.firstOf (cr.sysvarId s) merged).map SolanaAccount.data := by
    rw [HashMap.firstOf, Option.map_map]
    rfl
  simp only [Sysvars.setupSysvarCache, SysvarCache.fillMissingEntries, SysvarCache.default, hmap]
  cases ((HashMap.firstOf (cr.sysvarId s) merged).map SolanaAccount.data).filter
      (cr.sysvarDecodes s) with
  | none => rfl
  | some data => rfl

/-- Apart from its accounts an initial context consists of the rent and the limits of the VM. -/
theorem initialContext_congr {cr' : Crates}
    (haccounts : (svm'.initialContext cr' ixs accounts').accounts =
      (svm.initialContext cr ixs accounts).accounts)
    (hsysvars : svm'.sysvars = svm.sysvars) (hbudget : svm'.computeBudget = svm.computeBudget) :
    svm'.initialContext cr' ixs accounts' = svm.initialContext cr ixs accounts := by
  have hnew : ∀ (cr : Crates) (svm : QuasarSvm) (accounts : List Account),
      svm.initialContext cr ixs accounts =
        TransactionContext.new (svm.initialContext cr ixs accounts).accounts svm.sysvars.rent
          svm.computeBudget.maxInstructionStackDepth svm.computeBudget.maxInstructionTraceLength
          ixs.length := fun _ _ _ => rfl
  rw [hnew cr', hnew cr, haccounts, hsysvars, hbudget]

/-- Two calls that give the runtime the same run alike. -/
theorem run_congr {cr' : Crates} (hlimit : cr'.logBytesLimit = cr.logBytesLimit)
    (hmessage : cr'.messageNew ixs = cr.messageNew ixs)
    (hcontext : svm'.initialContext cr' ixs accounts' = svm.initialContext cr ixs accounts)
    (hsysvars : svm'.sysvars.setupSysvarCache cr' (svm'.mergedAccounts accounts') =
      svm.sysvars.setupSysvarCache cr (svm.mergedAccounts accounts))
    (hprograms : svm'.programCache.cache = svm.programCache.cache)
    (hbudget : svm'.computeBudget = svm.computeBudget) :
    svm'.run cr' rt ixs accounts' = svm.run cr rt ixs accounts := by
  have hsame : svm'.message cr' ixs accounts' = svm.message cr ixs accounts :=
    congrArg SanitizedMessage.mk hmessage
  have hstart : ∀ trace, svm'.startContext cr' ixs accounts' trace =
      svm.startContext cr ixs accounts trace := by
    intro trace
    simp only [startContext, invokeContext, resetLogger, hsame, hcontext, hsysvars, hprograms,
      hbudget, hlimit]
  simp only [run_eq, hsame, hcontext, hstart]

/-- Two VMs with the same programs, sysvars and budget, under whose account lists each address has
the same account. -/
structure SameView (svm svm' : QuasarSvm) (accounts accounts' : List Account) : Prop where
  sysvars : svm'.sysvars = svm.sysvars
  programs : svm'.programCache = svm.programCache
  budget : svm'.computeBudget = svm.computeBudget
  merged : ∀ k, HashMap.firstOf k (svm'.mergedAccounts accounts') =
    HashMap.firstOf k (svm.mergedAccounts accounts)

namespace SameView

theorem supplied_iff (h : SameView svm svm' accounts accounts') (k : Pubkey) :
    Supplied svm' accounts' k ↔ Supplied svm accounts k := by
  rw [← not_iff_not, ← firstOf_mergedAccounts_eq_none_iff, ← firstOf_mergedAccounts_eq_none_iff,
    h.merged k]

theorem mem_keys_iff (h : SameView svm svm' accounts accounts') (k : Pubkey) :
    k ∈ (svm'.mergedAccounts accounts').map Prod.fst ↔
      k ∈ (svm.mergedAccounts accounts).map Prod.fst := by
  rw [mem_mergedKeys_iff, mem_mergedKeys_iff]
  exact h.supplied_iff k

theorem missingPrograms_eq (h : SameView svm svm' accounts accounts') :
    missingPrograms cr svm' ixs accounts' = missingPrograms cr svm ixs accounts := by
  refine List.filter_congr ?_
  intro pid _
  simp only [h.mem_keys_iff]

theorem programFallbacks_eq (h : SameView svm svm' accounts accounts') (pid : Pubkey) :
    svm'.programFallbacks cr pid = svm.programFallbacks cr pid := by
  simp only [programFallbacks, h.programs]

end SameView

/-- With equal fallbacks of every key, two such VMs resolve every key alike. -/
theorem resolved_congr {cr' : Crates} (h : SameView svm svm' accounts accounts')
    (hfallbacks : ¬ Supplied svm accounts k →
      (fallbacks cr' svm' ixs accounts').lookup k = (fallbacks cr svm ixs accounts).lookup k)
    (hsysvar : svm.sysvars.maybeCreateSysvarAccount cr' k =
      svm.sysvars.maybeCreateSysvarAccount cr k)
    (hprograms : svm.programCache.maybeCreateProgramAccounts cr' k =
      svm.programCache.maybeCreateProgramAccounts cr k) :
    resolved cr' svm' ixs accounts' k = resolved cr svm ixs accounts k := by
  cases hfirst : HashMap.firstOf k (svm.mergedAccounts accounts) with
  | some a => rw [resolved_of_supplied hfirst, resolved_of_supplied ((h.merged k).trans hfirst)]
  | none =>
      have hnot := firstOf_mergedAccounts_eq_none_iff.1 hfirst
      have hnot' : ¬ Supplied svm' accounts' k := fun hs => hnot ((h.supplied_iff k).1 hs)
      rw [resolved_of_not_supplied hnot, resolved_of_not_supplied hnot', hfallbacks hnot, h.sysvars,
        h.programs, hsysvar, hprograms]

end QuasarSvm
end Svm
end Quasar
