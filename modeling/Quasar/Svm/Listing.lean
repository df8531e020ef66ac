import Quasar.Svm.Iteration
import Quasar.Svm.Metadata
import Quasar.Svm.SamePrograms

/-!
# Listing — reports that say the same of every account

A report lists its accounts in the order of the store, which is an accident of the hash map.  Read row
by row, with each account its balances and its token balances, the reports of VMs whose stores and
caches only differ in their order say the same; and such VMs stay like that.
-/

namespace Quasar
namespace Svm

open Lib

/-! ## Rows -/

/-- What a report says of one account. -/
structure ReportRow where
  account : Account
  preBalance : Option UInt64
  postBalance : Option UInt64
  preToken : Option TokenBalance
  postToken : Option TokenBalance

/-- The token balance listed for an index, without the index. -/
def tokenAt (entries : List TokenBalance) (i : Nat) : Option TokenBalance :=
  (entries.find? fun e => e.accountIndex = i).map fun e => { e with accountIndex := 0 }

namespace ExecutionResult

/-- The lists of a report, row by row. -/
def rows (r : ExecutionResult) : List ReportRow :=
  r.accounts.zipIdx.map fun p =>
    { account := p.1
      preBalance := r.preBalances[p.2]?
      postBalance := r.postBalances[p.2]?
      preToken := tokenAt r.preTokenBalances p.2
      postToken := tokenAt r.postTokenBalances p.2 }

/-- The report without its lists. -/
def withoutRows (r : ExecutionResult) : ExecutionResult :=
  { r with
    accounts := []
    preBalances := []
    postBalances := []
    preTokenBalances := []
    postTokenBalances := [] }

end ExecutionResult

/-- A reply, with the rows of its report in no order. -/
def Reply.unordered : Reply → Reply × Multiset ReportRow
  | .executed (.ok r) => (.executed (.ok r.withoutRows), (r.rows : Multiset ReportRow))
  | .executed (.error m) => (.executed (.error m), 0)
  | .account a => (.account a, 0)
  | .program e => (.program e, 0)
  | .done r => (.done r, 0)

namespace QuasarSvm

variable {cr : Crates} {rt : Runtime} {svm svm' : QuasarSvm} {ixs : List Instruction}
  {accounts : List Account} {merged merged' resulting resulting' : List (Pubkey × SolanaAccount)}

theorem tokenAt_extract (cr : Crates) (pairs : List (Pubkey × SolanaAccount)) (i : Nat) :
    tokenAt (extractTokenBalances cr pairs) i =
      (pairs[i]?).bind fun p => (tokenOf cr p.2).map (balanceOf cr pairs 0) := by
  unfold tokenAt
  cases hfind : (extractTokenBalances cr pairs).find? fun e => e.accountIndex = i with
  | some e =>
      have hindex : e.accountIndex = i := by simpa using List.find?_some hfind
      rcases mem_extractTokenBalances.1 (List.mem_of_find?_eq_some hfind) with
        ⟨j, p, token, hget, htoken, rfl⟩
      have hj : j = i := hindex
      rw [← hj, hget, Option.bind_some, htoken]
      rfl
  | none =>
      -- An entry for the index would have been found.
      cases hget : pairs[i]? with
      | none => rfl
      | some p =>
          cases htoken : tokenOf cr p.2 with
          | none => simp [htoken]
          | some token =>
              have hmem := mem_extractTokenBalances.2 ⟨i, p, token, hget, htoken, rfl⟩
              have hnot := List.find?_eq_none.1 hfind _ hmem
              exact absurd (decide_eq_true rfl) hnot

/-- What a report says of an entry of the merged list that ended as `a`. -/
def rowOf (cr : Crates) (merged resulting : List (Pubkey × SolanaAccount))
    (p : Pubkey × SolanaAccount) (a : SolanaAccount) : ReportRow :=
  { account := Account.fromPair p.1 a
    preBalance := some p.2.lamports
    postBalance := some a.lamports
    preToken := (tokenOf cr p.2).map (balanceOf cr merged 0)
    postToken := (tokenOf cr a).map (balanceOf cr resulting 0) }

/-- The rows of a report follow the merged list. -/
theorem rows_report (f : Pubkey × SolanaAccount → SolanaAccount)
    (hresulting : resulting = merged.map fun p => (p.1, f p)) (logs : List String)
    (o : MessageOutcome) :
    (report cr merged resulting logs o).rows =
      merged.map fun p => rowOf cr merged resulting p (f p) := by
  apply List.ext_getElem?
  intro i
  have hpost : resulting[i]? = (merged[i]?).map fun p => (p.1, f p) := by
    rw [hresulting, List.getElem?_map]
  simp only [ExecutionResult.rows, report, pairsToSvmAccounts, List.getElem?_map,
    List.getElem?_zipIdx, tokenAt_extract, hpost]
  cases hget : merged[i]? with
  | none => rfl
  | some p => simp [rowOf, hpost, hget]

/-! ## Stores in any order -/

/-- Lists with the same first account under every key show the same decimals. -/
theorem balanceOf_congr (hfirst : ∀ k, HashMap.firstOf k merged' = HashMap.firstOf k merged) :
    balanceOf cr merged' 0 = balanceOf cr merged 0 := by
  have hdecimals : mintDecimals cr merged' = mintDecimals cr merged := by
    funext mint
    have hmint : ∀ l : List (Pubkey × SolanaAccount), mintDecimals cr l mint =
        (((HashMap.firstOf mint l).bind (mintOf cr)).map SplMint.decimals).getD 0 := by
      intro l
      rw [mintDecimals_eq, HashMap.firstOf]
      cases l.find? fun p => p.1 = mint with
      | none => rfl
      | some p => rfl
    rw [hmint, hmint, hfirst]
  funext token
  simp only [balanceOf, hdecimals]

/-- Reports of one run over merged lists that differ in their order say the same of every account. -/
theorem unordered_report (f : Pubkey × SolanaAccount → SolanaAccount)
    (hresulting : resulting = merged.map fun p => (p.1, f p))
    (hresulting' : resulting' = merged'.map fun p => (p.1, f p)) (hperm : merged'.Perm merged)
    (hfirst : ∀ k, HashMap.firstOf k merged' = HashMap.firstOf k merged)
    (hfirst' : ∀ k, HashMap.firstOf k resulting' = HashMap.firstOf k resulting)
    (logs : List String) (o : MessageOutcome) :
    (Reply.executed (.ok (report cr merged' resulting' logs o))).unordered =
      (Reply.executed (.ok (report cr merged resulting logs o))).unordered := by
  have hrow : rowOf cr merged' resulting' = rowOf cr merged resulting := by
    funext p a
    simp only [rowOf, balanceOf_congr hfirst, balanceOf_congr hfirst']
  have hrows : ((report cr merged' resulting' logs o).rows : Multiset ReportRow) =
      (report cr merged resulting logs o).rows := by
    rw [rows_report f hresulting, rows_report f hresulting', hrow]
    exact Multiset.coe_eq_coe.2 (hperm.map _)
  simp only [Reply.unordered, hrows]
  rfl

/-- Stores with the same account under every key are the same up to their order. -/
theorem reordered_of_lookup {store : HashMap Pubkey SolanaAccount}
    (hsvm' : svm' = { svm with accounts := store })
    (hlookup : ∀ k, svm'.accounts.lookup k = svm.accounts.lookup k) : Reordered svm svm' := by
  subst hsvm'
  refine ⟨store, ?_, rfl⟩
  apply List.lookup_ext store.nodupKeys svm.accounts.nodupKeys
  intro k a
  exact Iff.of_eq (congrArg (a ∈ ·) (hlookup k))

/-- A call on a VM whose store stands in another order reports the same and stores the same. -/
theorem Reordered.executeInner (h : Reordered svm svm') (cr : Crates) (rt : Runtime)
    (ixs : List Instruction) (accounts : List Account) (commit : Bool) :
    (Reply.executed (svm.executeInner cr rt ixs accounts commit).2).unordered =
        (Reply.executed (svm'.executeInner cr rt ixs accounts commit).2).unordered ∧
      Reordered (svm.executeInner cr rt ixs accounts commit).1
        (svm'.executeInner cr rt ixs accounts commit).1 := by
  have hrun : svm'.run cr rt ixs accounts = svm.run cr rt ixs accounts :=
    (h.sameView accounts).run_eq
  have hfirst := h.firstOf_eq accounts
  have hlast := h.lastOf_eq accounts
  have hperm := h.perm_mergedAccounts accounts
  rcases h with ⟨store, hstore, rfl⟩
  cases ho : svm.run cr rt ixs accounts with
  | none =>
      rw [executeInner_of_none ho, executeInner_of_none (hrun.trans ho)]
      exact ⟨rfl, store, hstore, rfl⟩
  | some o =>
      rw [executeInner_of_some ho, executeInner_of_some (hrun.trans ho)]
      cases hresult : o.rawResult with
      | error e =>
          simp only [settle, hresult]
          refine ⟨?_, store, hstore, rfl⟩
          have hself : ∀ l : List (Pubkey × SolanaAccount), l = l.map fun p => (p.1, p.2) :=
            fun l => (List.map_id l).symm
          exact (unordered_report Prod.snd (hself _) (hself _) hperm hfirst hfirst _ o).symm
      | ok u =>
          have hresulting : ∀ k, HashMap.firstOf k
              ({ svm with accounts := store }.resultingAccounts accounts o) =
                HashMap.firstOf k (svm.resultingAccounts accounts o) := by
            intro k
            rw [firstOf_resultingAccounts, firstOf_resultingAccounts, hfirst]
          simp only [settle, hresult]
          refine ⟨(unordered_report (fun p => finalAccount o p.1 p.2) rfl rfl hperm hfirst
            hresulting _ o).symm, ?_⟩
          cases commit with
          | false => exact ⟨store, hstore, rfl⟩
          | true =>
              refine reordered_of_lookup rfl ?_
              intro k
              exact (lookup_commitAccounts _ accounts o k).trans
                ((congrArg _ (hlast k)).trans (lookup_commitAccounts svm accounts o k).symm)

end QuasarSvm
end Svm
end Quasar
