import Quasar.Svm.Resolution
import Quasar.Svm.TokenBalances

/-!
# Metadata — the balances of a report, index by index

A report lists accounts, lamports and token balances before and after the call.  All of these lists
follow the order of the merged list, whatever the runtime did to the accounts, so an index means the
same address in each of them.
-/

namespace Quasar
namespace Svm
namespace QuasarSvm

open Lib

variable {cr : Crates} {rt : Runtime}

/-- The entries are those of the accounts that hold a token account, each with its position. -/
structure TokensAligned (cr : Crates) (accounts : List Account) (entries : List TokenBalance) :
    Prop where
  increasing : entries.Pairwise fun a b => a.accountIndex < b.accountIndex
  entry : ∀ e ∈ entries, ∃ a token, accounts[e.accountIndex]? = some a ∧
    a.data.length = splTokenAccountLen ∧ cr.unpackTokenAccount a.data = some token ∧
    e.mint = cr.pubkeyToString token.mint ∧ e.owner = some (cr.pubkeyToString token.owner) ∧
    e.uiTokenAmount.amount = toString token.amount.toNat
  complete : ∀ i a token, accounts[i]? = some a → a.data.length = splTokenAccountLen →
    cr.unpackTokenAccount a.data = some token → ∃ e ∈ entries, e.accountIndex = i

/-- The lists of the report, read against the accounts before the call. -/
structure MetadataAligned (cr : Crates) (before : List Account) (r : ExecutionResult) : Prop where
  preLength : r.preBalances.length = r.accounts.length
  postLength : r.postBalances.length = r.accounts.length
  addresses : r.accounts.map Account.address = before.map Account.address
  preBalances : r.preBalances = before.map Account.lamports
  postBalances : r.postBalances = r.accounts.map Account.lamports
  preIndices : ∀ e ∈ r.preTokenBalances, e.accountIndex < r.accounts.length
  postIndices : ∀ e ∈ r.postTokenBalances, e.accountIndex < r.accounts.length
  preTokens : TokensAligned cr before r.preTokenBalances
  postTokens : TokensAligned cr r.accounts r.postTokenBalances

/-- The accounts a call finds: the stored ones that are not passed, then the passed ones. -/
def accountsBefore (svm : QuasarSvm) (accounts : List Account) : List Account :=
  pairsToSvmAccounts (svm.mergedAccounts accounts)

theorem pairsToSvmAccounts_getElem? (pairs : List (Pubkey × SolanaAccount)) (i : Nat) :
    (pairsToSvmAccounts pairs)[i]? = (pairs[i]?).map fun p => Account.fromPair p.1 p.2 := by
  simp [pairsToSvmAccounts]

/-- An account is found before the call when it is passed, or stored under an address that is not
passed. -/
theorem mem_accountsBefore_iff {svm : QuasarSvm} {accounts : List Account} {a : Account} :
    a ∈ svm.accountsBefore accounts ↔
      a ∈ accounts ∨ (NotPassed accounts a.address ∧ svm.getAccount a.address = some a) := by
  simp only [accountsBefore, pairsToSvmAccounts, mergedAccounts, mergeAccounts, List.map_append,
    List.mem_append, List.map_map, or_comm (a := a ∈ accounts)]
  refine or_congr ?_ ?_
  · constructor
    · intro h
      obtain ⟨⟨k, v⟩, hmem, rfl⟩ := List.mem_map.1 h
      obtain ⟨hstored, hnot⟩ := List.mem_filter.1 hmem
      have hlookup : svm.accounts.lookup k = some v := HashMap.mem_toPairs_iff.1 hstored
      refine ⟨?_, by simp [getAccount, hlookup]⟩
      intro b hb hkey
      exact (of_decide_eq_true hnot) (List.mem_map.2 ⟨b, hb, hkey⟩)
    · rintro ⟨hnot, hstored⟩
      obtain ⟨v, hlookup, hv⟩ := Option.map_eq_some_iff.1 hstored
      refine List.mem_map.2 ⟨(a.address, v), List.mem_filter.2 ⟨?_, ?_⟩, hv⟩
      · exact HashMap.mem_toPairs_iff.2 hlookup
      · refine decide_eq_true ?_
        intro hmem
        obtain ⟨b, hb, hkey⟩ := List.mem_map.1 hmem
        exact hnot b hb hkey
  · -- Nothing of an account is lost on its way into the merged list and back.
    have hid : (fun p : Pubkey × SolanaAccount => Account.fromPair p.1 p.2) ∘ Account.toPair =
        id := rfl
    simp [hid]

theorem tokensAligned_extract (cr : Crates) (pairs : List (Pubkey × SolanaAccount)) :
    TokensAligned cr (pairsToSvmAccounts pairs) (extractTokenBalances cr pairs) := by
  refine ⟨extractTokenBalances_increasing cr pairs, ?_, ?_⟩
  · intro e he
    obtain ⟨i, p, token, hget, htoken, rfl⟩ := mem_extractTokenBalances.1 he
    have hlen : p.2.data.length = splTokenAccountLen := by
      by_contra hne
      simp [tokenOf, hne] at htoken
    have hunpack : cr.unpackTokenAccount p.2.data = some token := by
      simpa [tokenOf, hlen] using htoken
    refine ⟨Account.fromPair p.1 p.2, token, ?_, hlen, hunpack, rfl, rfl, rfl⟩
    have hget' : pairs[(balanceOf cr pairs i token).accountIndex]? = some p := hget
    rw [pairsToSvmAccounts_getElem?, hget']
    rfl
  · intro i a token hget hlen hunpack
    rw [pairsToSvmAccounts_getElem?] at hget
    obtain ⟨p, hp, rfl⟩ := Option.map_eq_some_iff.1 hget
    have htoken : tokenOf cr p.2 = some token := (if_pos hlen).trans hunpack
    have hmem := mem_extractTokenBalances.2 ⟨i, p, token, hp, htoken, rfl⟩
    exact ⟨balanceOf cr pairs i token, hmem, rfl⟩

theorem TokensAligned.index_lt {accounts : List Account} {entries : List TokenBalance}
    (h : TokensAligned cr accounts entries) : ∀ e ∈ entries, e.accountIndex < accounts.length := by
  intro e he
  obtain ⟨a, token, hget, -⟩ := h.entry e he
  exact (List.getElem?_eq_some_iff.1 hget).1

/-- A report over a list with the addresses of the merged list is aligned. -/
theorem metadataAligned_report {merged resulting : List (Pubkey × SolanaAccount)}
    (haddresses : resulting.map Prod.fst = merged.map Prod.fst) (logs : List String)
    (o : MessageOutcome) :
    MetadataAligned cr (pairsToSvmAccounts merged) (report cr merged resulting logs o) := by
  have hlength : resulting.length = merged.length := by simpa using congrArg List.length haddresses
  have hpre := tokensAligned_extract cr merged
  have hpost := tokensAligned_extract cr resulting
  refine
    { preLength := ?_
      postLength := ?_
      addresses := ?_
      preBalances := ?_
      postBalances := ?_
      preIndices := ?_
      postIndices := hpost.index_lt
      preTokens := hpre
      postTokens := hpost }
  · simp [report, pairsToSvmAccounts, hlength]
  · simp [report, pairsToSvmAccounts]
  · simpa [report, pairsToSvmAccounts, Function.comp_def] using haddresses
  · simp [report, pairsToSvmAccounts, Account.fromPair]
  · simp [report, pairsToSvmAccounts, Account.fromPair]
  · intro e he
    simpa [report, pairsToSvmAccounts, hlength] using hpre.index_lt e he

/-- Every report of a call, committed or simulated, successful or failed, is aligned with the
accounts that the call found. -/
theorem executeInner_metadataAligned (svm : QuasarSvm) (ixs : List Instruction)
    (accounts : List Account) (commit : Bool) (r : ExecutionResult)
    (hr : (svm.executeInner cr rt ixs accounts commit).2 = .ok r) :
    MetadataAligned cr (svm.accountsBefore accounts) r ∧
      ∀ a, a ∈ svm.accountsBefore accounts ↔
        a ∈ accounts ∨ (NotPassed accounts a.address ∧ svm.getAccount a.address = some a) := by
  refine ⟨?_, fun a => mem_accountsBefore_iff⟩
  have hexecution := executeInner_execution cr rt svm ixs accounts commit
  generalize svm.executeInner cr rt ixs accounts commit = out at hexecution hr
  cases hexecution with
  | panicked hrun => cases hr
  | failed o e hrun hresult =>
      -- A failed call reports the merged list itself.
      cases hr
      exact metadataAligned_report rfl _ o
  | succeeded o hrun hresult =>
      cases hr
      refine metadataAligned_report ?_ _ o
      simp [resultingAccounts, deconstructResultingAccounts, Function.comp_def]

/-- A transfer between a stored and a passed account, with a token account passed behind them. -/
theorem executeInner_metadataAligned_reference :
    let passed := [Reference.walletOf (Pubkey.filled 2), Account.fromPair (Pubkey.filled 3)
      (Reference.tokenAccountOf splTokenProgramId (Pubkey.filled 4))]
    ∃ r, (Reference.payerVm.executeInner Reference.tokenCrates Reference.transferRuntime
        [Reference.transferInstruction] passed true).2 = .ok r ∧
      r.preBalances = [1000, 1000, 0] ∧ r.postBalances = [990, 1010, 0] ∧
      r.postTokenBalances.map TokenBalance.accountIndex = [2] ∧
      MetadataAligned Reference.tokenCrates (Reference.payerVm.accountsBefore passed) r := by
  intro passed
  have hbalances : ((Reference.payerVm.executeInner Reference.tokenCrates Reference.transferRuntime
      [Reference.transferInstruction] passed true).2.toOption.map fun r =>
        (r.preBalances, r.postBalances, r.postTokenBalances.map TokenBalance.accountIndex)) =
          some ([1000, 1000, 0], [990, 1010, 0], [2]) := by
    decide +kernel
  cases hr : (Reference.payerVm.executeInner Reference.tokenCrates Reference.transferRuntime
      [Reference.transferInstruction] passed true).2 with
  | ok r =>
      rw [hr] at hbalances
      simp only [Except.toOption, Option.map_some, Option.some.injEq, Prod.mk.injEq] at hbalances
      exact ⟨r, rfl, hbalances.1, hbalances.2.1, hbalances.2.2,
        (executeInner_metadataAligned _ _ _ _ r hr).1⟩
  | error message =>
      rw [hr] at hbalances
      cases hbalances

end QuasarSvm
end Svm
end Quasar
