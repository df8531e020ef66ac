import Quasar.Svm.StoreHistory

/-!
# InstructionsSysvar — the account that lists the current transaction

The engine builds the account of the instructions sysvar unless an account of that address was
supplied, and appends it to the accounts of the message keys.  Neither decision looks at the
message: a message that names the sysvar has it twice, and a stored account of that address takes
its place in every later call.
-/

namespace Quasar
namespace Svm

open Lib

namespace QuasarSvm

variable {cr : Crates} {rt : Runtime} {svm : QuasarSvm} {ixs : List Instruction}
  {accounts : List Account}

/-! ## The account list -/

/-- A transaction's account list: the keys of the message first, no key twice, and the instructions
sysvar among them. -/
structure WellFormed (cr : Crates) (ixs : List Instruction)
    (transactionAccounts : List (Pubkey × SolanaAccount)) : Prop where
  keys_prefix : (cr.messageNew ixs).accountKeys <+: transactionAccounts.map Prod.fst
  nodup : (transactionAccounts.map Prod.fst).Nodup
  sysvar_once : (transactionAccounts.map Prod.fst).count cr.instructionsSysvarId = 1

/-- The keys of a transaction: those of the message, and then the instructions sysvar unless it was
supplied. -/
theorem keys_compileAccounts (cr : Crates) (svm : QuasarSvm) (ixs : List Instruction)
    (accounts : List Account) :
    ((svm.compileAccounts cr ixs (svm.mergedAccounts accounts)).2).map Prod.fst =
      (cr.messageNew ixs).accountKeys ++
        if cr.instructionsSysvarId ∈ (svm.mergedAccounts accounts).map Prod.fst then []
        else [cr.instructionsSysvarId] := by
  have hlist : (svm.compileAccounts cr ixs (svm.mergedAccounts accounts)).2 = _ :=
    accounts_initialContext cr svm ixs accounts
  rw [hlist, List.map_append, List.map_map]
  by_cases hmem : cr.instructionsSysvarId ∈ (svm.mergedAccounts accounts).map Prod.fst
  · simp [hmem, Function.comp_def]
  · simp [hmem, Function.comp_def, buildInstructionsSysvar]

/-- With distinct message keys the list is well formed exactly when the sysvar is either both
supplied and named, or neither. -/
theorem wellFormed_iff (hkeys : ∀ ixs, (cr.messageNew ixs).accountKeys.Nodup) (svm : QuasarSvm)
    (accounts : List Account) (ixs : List Instruction) :
    WellFormed cr ixs (svm.compileAccounts cr ixs (svm.mergedAccounts accounts)).2 ↔
      (Supplied svm accounts cr.instructionsSysvarId ↔
        cr.instructionsSysvarId ∈ (cr.messageNew ixs).accountKeys) := by
  have hlist := keys_compileAccounts cr svm ixs accounts
  rw [← mem_mergedKeys_iff]
  by_cases hmem : cr.instructionsSysvarId ∈ (svm.mergedAccounts accounts).map Prod.fst
  · -- Supplied: nothing is appended, so the message has to name the sysvar.
    simp only [hmem, if_true, List.append_nil, true_iff] at hlist ⊢
    constructor
    · intro h
      have honce := h.sysvar_once
      rw [hlist] at honce
      exact List.count_pos_iff.1 (honce ▸ Nat.one_pos)
    · intro hnamed
      refine ⟨?_, ?_, ?_⟩
      · rw [hlist]
      · rw [hlist]
        exact hkeys ixs
      · rw [hlist]
        exact List.count_eq_one_of_mem (hkeys ixs) hnamed
  · -- Not supplied: the sysvar is appended, so the message must not name it.
    simp only [hmem, if_false, false_iff] at hlist ⊢
    constructor
    · intro h hnamed
      have hnodup := h.nodup
      rw [hlist] at hnodup
      exact List.disjoint_of_nodup_append hnodup hnamed (List.mem_singleton.2 rfl)
    · intro hnamed
      refine ⟨?_, ?_, ?_⟩
      · rw [hlist]
        exact List.prefix_append _ _
      · rw [hlist]
        exact (hkeys ixs).append (List.nodup_singleton _) (by simpa using hnamed)
      · rw [hlist, List.count_append, List.count_eq_zero.2 hnamed]
        simp

/-- A call that neither supplies nor names the sysvar has a well-formed list. -/
theorem wellFormed_iff_plain :
    WellFormed Reference.crates [Reference.instructionOn (Pubkey.filled 9) [Pubkey.filled 1]]
      (Reference.emptyVm.compileAccounts Reference.crates
        [Reference.instructionOn (Pubkey.filled 9) [Pubkey.filled 1]]
        (Reference.emptyVm.mergedAccounts [])).2 := by
  refine (wellFormed_iff Reference.nodup_accountKeys Reference.emptyVm [] _).2 ?_
  have hnamed : Reference.crates.instructionsSysvarId ∉ (Reference.crates.messageNew
      [Reference.instructionOn (Pubkey.filled 9) [Pubkey.filled 1]]).accountKeys := by
    decide
  refine ⟨?_, fun h => absurd h hnamed⟩
  intro h
  rcases h with h | ⟨a, ha, _⟩
  · exact absurd h (by decide)
  · cases ha

/-- An instruction names the sysvar and nobody supplies it: it is listed twice. -/
theorem sysvar_listed_twice :
    ((Reference.emptyVm.compileAccounts Reference.crates
        [Reference.instructionOn (Pubkey.filled 9) [Reference.crates.instructionsSysvarId]]
        (Reference.emptyVm.mergedAccounts [])).2).map Prod.fst =
      [Pubkey.filled 9, Pubkey.filled 231, Pubkey.filled 231] ∧
    ¬ ∀ (svm : QuasarSvm) (accounts : List Account) (ixs : List Instruction),
      WellFormed Reference.crates ixs
        (svm.compileAccounts Reference.crates ixs (svm.mergedAccounts accounts)).2 := by
  have hlist : ((Reference.emptyVm.compileAccounts Reference.crates
      [Reference.instructionOn (Pubkey.filled 9) [Reference.crates.instructionsSysvarId]]
      (Reference.emptyVm.mergedAccounts [])).2).map Prod.fst =
        [Pubkey.filled 9, Pubkey.filled 231, Pubkey.filled 231] := by
    decide
  refine ⟨hlist, ?_⟩
  intro h
  have hnodup := (h Reference.emptyVm []
    [Reference.instructionOn (Pubkey.filled 9) [Reference.crates.instructionsSysvarId]]).nodup
  rw [hlist] at hnodup
  exact absurd hnodup (by decide)

/-! ## Introspection -/

/-- The transaction resolves the instructions sysvar to an account that lists the call's own
instructions. -/
def Introspects (cr : Crates) (svm : QuasarSvm) (ixs : List Instruction)
    (accounts : List Account) : Prop :=
  ((svm.initialContext cr ixs accounts).findAccount cr.instructionsSysvarId).map
    SolanaAccount.data = some (cr.constructInstructionsData ixs)

/-- Where nobody supplied the sysvar, the transaction has the one that is built for it. -/
theorem findAccount_sysvar (h : ¬ Supplied svm accounts cr.instructionsSysvarId) :
    (svm.initialContext cr ixs accounts).findAccount cr.instructionsSysvarId =
      some (buildInstructionsSysvar cr ixs).2 := by
  by_cases hnamed : cr.instructionsSysvarId ∈ (cr.messageNew ixs).accountKeys
  · rw [findAccount_of_mem_keys hnamed, resolved_of_not_supplied h, lookup_fallbacks_sysvar h,
      Option.some_or, Option.getD_some]
  · have hmem : cr.instructionsSysvarId ∉ (svm.mergedAccounts accounts).map Prod.fst :=
      fun hmem => h (mem_mergedKeys_iff.1 hmem)
    simp [findAccount_of_not_mem_keys hnamed, hmem]

/-- A call that does not pass the sysvar introspects itself exactly when the store holds none, or
the message names it and the stored one happens to list the same instructions. -/
theorem introspects_iff (h : NotPassed accounts cr.instructionsSysvarId) :
    Introspects cr svm ixs accounts ↔
      ∀ a, svm.accounts.lookup cr.instructionsSysvarId = some a →
        cr.instructionsSysvarId ∈ (cr.messageNew ixs).accountKeys ∧
          a.data = cr.constructInstructionsData ixs := by
  have hfirst := firstOf_mergedAccounts_of_notPassed svm h
  unfold Introspects
  cases hlookup : svm.accounts.lookup cr.instructionsSysvarId with
  | none =>
      rw [hlookup] at hfirst
      rw [findAccount_sysvar (firstOf_mergedAccounts_eq_none_iff.1 hfirst)]
      simp [buildInstructionsSysvar]
  | some a =>
      rw [hlookup] at hfirst
      by_cases hnamed : cr.instructionsSysvarId ∈ (cr.messageNew ixs).accountKeys
      · rw [findAccount_of_mem_keys hnamed, resolved_of_supplied hfirst]
        simp [hnamed]
      · -- A stored sysvar that the message does not name is nowhere in the transaction.
        have hmem : cr.instructionsSysvarId ∈ (svm.mergedAccounts accounts).map Prod.fst :=
          HashMap.isSome_firstOf_iff.1 (by simp [hfirst])
        simp [findAccount_of_not_mem_keys hnamed, hmem, hnamed]

/-- After a history, each call introspects itself under the condition above, and all calls do
exactly when no step stored an account under the sysvar's id. -/
theorem introspection_iff (cr : Crates) (rt : Runtime)
    (hempty : (cr.messageNew []).accountKeys = []) (svm : QuasarSvm)
    (hnew : svm.accounts.lookup cr.instructionsSysvarId = none) (ops : List Operation) :
    (∀ ixs accounts, NotPassed accounts cr.instructionsSysvarId →
      (Introspects cr (svm.after cr rt ops) ixs accounts ↔
        ∀ a, (svm.after cr rt ops).accounts.lookup cr.instructionsSysvarId = some a →
          cr.instructionsSysvarId ∈ (cr.messageNew ixs).accountKeys ∧
            a.data = cr.constructInstructionsData ixs)) ∧
      ((∀ ixs accounts, NotPassed accounts cr.instructionsSysvarId →
        Introspects cr (svm.after cr rt ops) ixs accounts) ↔
          NeverStores cr rt svm ops cr.instructionsSysvarId) := by
  refine ⟨fun ixs accounts h => introspects_iff h, ?_⟩
  rw [← lookup_after_eq_none_iff hnew]
  constructor
  · intro h
    -- The empty message names nothing, so a stored sysvar would be missing there.
    have hpassed : NotPassed [] cr.instructionsSysvarId := by simp [NotPassed]
    have hcall := (introspects_iff hpassed).1 (h [] [] hpassed)
    cases hlookup : (svm.after cr rt ops).accounts.lookup cr.instructionsSysvarId with
    | none => rfl
    | some a =>
        have hnamed := (hcall a hlookup).1
        simp [hempty] at hnamed
  · intro hnone ixs accounts hpassed
    refine (introspects_iff hpassed).2 ?_
    intro a ha
    cases hnone.symm.trans ha

/-- A program reads the instructions sysvar. -/
def introspectingCall : List Instruction :=
  [Reference.instructionOn (Pubkey.filled 9) [Pubkey.filled 231]]

/-- After calls that pass other accounts a call introspects itself. -/
theorem introspection_iff_plain :
    Introspects Reference.introspectionCrates
      (Reference.emptyVm.after Reference.introspectionCrates Reference.idleRuntime
        [.setAccount (Account.fromPair (Pubkey.filled 1) SolanaAccount.default),
          .execute introspectingCall
            [Account.fromPair (Pubkey.filled 2) SolanaAccount.default] true])
      introspectingCall [] := by
  refine (introspection_iff Reference.introspectionCrates Reference.idleRuntime rfl
    Reference.emptyVm rfl _).2.2 ?_ introspectingCall [] (by decide)
  refine neverStores_of_not_mem ?_
  decide

/-- The instructions sysvar of another transaction, as a caller may pass it. -/
def otherTransaction : Account :=
  Account.fromPair (Pubkey.filled 231)
    { SolanaAccount.default with
      data := Reference.constructInstructionsData
        [Reference.instructionOn (Pubkey.filled 8) []] }

/-- Passed once to a call that succeeds, it is what every later call introspects. -/
theorem stale_introspection :
    ((Reference.emptyVm.after Reference.introspectionCrates Reference.idleRuntime
        [.execute introspectingCall [otherTransaction] true]).initialContext
          Reference.introspectionCrates introspectingCall []).findAccount (Pubkey.filled 231) =
      some otherTransaction.toPair.2 ∧
    ¬ Introspects Reference.introspectionCrates
      (Reference.emptyVm.after Reference.introspectionCrates Reference.idleRuntime
        [.execute introspectingCall [otherTransaction] true]) introspectingCall [] := by
  refine ⟨by decide, ?_⟩
  unfold Introspects
  decide

end QuasarSvm
end Svm
end Quasar
