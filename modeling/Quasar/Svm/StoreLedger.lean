import Quasar.Lib.Book
import Quasar.Svm.Conservation
import Quasar.Svm.Equivalence

/-!
# StoreLedger — the account store against a ledger

The ledger is a finite map whose lamports do not wrap.  Each operation posts to it under its own
keys only: an airdrop adds to a balance, and a committed call puts back the accounts that it was
passed or that its message names.  The store agrees with the ledger for as long as no airdrop takes
a balance beyond 64 bits.
-/

namespace Quasar
namespace Svm

open Lib

/-! ## Entries -/

/-- What an account holds. -/
structure LedgerEntry where
  lamports : ℕ
  data : Bytes
  owner : Pubkey
  executable : Bool
  deriving DecidableEq

namespace LedgerEntry

/-- More lamports, unless the sum does not fit into 64 bits. -/
def credit (e : LedgerEntry) (lamports : ℕ) : LedgerEntry :=
  -- The airdrop fails in the ledger where the sum of the store would wrap.
  if e.lamports + lamports < 2 ^ 64 then { e with lamports := e.lamports + lamports } else e

theorem credit_of_fits {e : LedgerEntry} {lamports : ℕ} (h : e.lamports + lamports < 2 ^ 64) :
    e.credit lamports = { e with lamports := e.lamports + lamports } :=
  if_pos h

theorem credit_of_not_fits {e : LedgerEntry} {lamports : ℕ}
    (h : ¬ e.lamports + lamports < 2 ^ 64) : e.credit lamports = e :=
  if_neg h

def mapData (f : Bytes → Bytes) (e : LedgerEntry) : LedgerEntry :=
  { e with data := f e.data }

end LedgerEntry

def Account.entry (a : Account) : LedgerEntry :=
  { lamports := a.lamports.toNat
    data := a.data
    owner := a.owner
    executable := a.executable }

def SolanaAccount.entry (a : SolanaAccount) : LedgerEntry :=
  { lamports := a.lamports.toNat
    data := a.data
    owner := a.owner
    executable := a.executable }

abbrev StoreLedger := Book Pubkey LedgerEntry

/-! ## Postings -/

/-- The data of a token account with another amount; other data stays. -/
def withAmount (cr : Crates) (amount : UInt64) (data : Bytes) : Bytes :=
  match cr.unpackTokenAccount data with
  | some token => cr.packTokenAccount { token with amount := amount } data
  | none => data

/-- The data of a mint with another supply; other data stays. -/
def withSupply (cr : Crates) (supply : UInt64) (data : Bytes) : Bytes :=
  match cr.unpackMint data with
  | some mint => cr.packMint { mint with supply := supply } data
  | none => data

/-- A balance that grows, or a new account of the system program. -/
def airdropPosting (cr : Crates) (pubkey : Pubkey) (lamports : UInt64) :
    Posting Pubkey LedgerEntry :=
  { key := pubkey
    change := fun old =>
      match old with
      | some e => some (e.credit lamports.toNat)
      | none =>
          some
            { lamports := lamports.toNat
              data := []
              owner := cr.systemProgramId
              executable := false } }

namespace QuasarSvm

variable (cr : Crates) (rt : Runtime)

/-- The keys an operation is about: those that a call passes or that its message names, if it is to
be committed, and the one key of each of the others. -/
def ownKeys : Operation → List Pubkey
  | .setAccount account => [account.address]
  | .airdrop pubkey _ => [pubkey]
  | .createAccount pubkey _ _ => [pubkey]
  | .setTokenBalance address _ => [address]
  | .setMintSupply address _ => [address]
  | .execute ixs accounts true => (cr.messageNew ixs).accountKeys ++ accounts.map Account.address
  | _ => []

/-- The reported accounts of a call that succeeds, under the keys it is about. -/
def writtenBack (keys : List Pubkey) : Except String ExecutionResult → List (Pubkey × LedgerEntry)
  | .ok r =>
      if r.isOk then
        (r.accounts.filter fun a => a.address ∈ keys).map fun a => (a.address, a.entry)
      else
        []
  | .error _ => []

/-- What an operation posts to the ledger. -/
def postings (svm : QuasarSvm) : Operation → List (Posting Pubkey LedgerEntry)
  | .setAccount account => [Posting.put account.address account.entry]
  | .airdrop pubkey lamports => [airdropPosting cr pubkey lamports]
  | .createAccount pubkey space owner =>
      -- The rent is that of the VM's sysvars, and an account that is there is replaced.
      [Posting.put pubkey
        { lamports := (cr.minimumBalance svm.sysvars.rent space).toNat
          data := List.replicate space 0
          owner := owner
          executable := false }]
  | .setTokenBalance address amount =>
      [Posting.modify address (LedgerEntry.mapData (withAmount cr amount))]
  | .setMintSupply address supply =>
      [Posting.modify address (LedgerEntry.mapData (withSupply cr supply))]
  | .execute ixs accounts true =>
      (writtenBack (ownKeys cr (.execute ixs accounts true))
        (svm.executeInner cr rt ixs accounts true).2).map fun p => Posting.put p.1 p.2
  -- Simulations, programs and sysvars have nothing to do with the ledger.
  | _ => []

variable {cr rt} {svm : QuasarSvm} {ixs : List Instruction} {accounts : List Account} {k : Pubkey}

/-- An operation posts to its own keys only. -/
theorem key_mem_ownKeys (svm : QuasarSvm) (op : Operation) {p : Posting Pubkey LedgerEntry}
    (hp : p ∈ postings cr rt svm op) : p.key ∈ ownKeys cr op := by
  cases op with
  | setAccount account =>
      cases List.mem_singleton.1 hp
      exact List.mem_singleton.2 rfl
  | airdrop pubkey lamports =>
      cases List.mem_singleton.1 hp
      exact List.mem_singleton.2 rfl
  | createAccount pubkey space owner =>
      cases List.mem_singleton.1 hp
      exact List.mem_singleton.2 rfl
  | setTokenBalance address amount =>
      cases List.mem_singleton.1 hp
      exact List.mem_singleton.2 rfl
  | setMintSupply address supply =>
      cases List.mem_singleton.1 hp
      exact List.mem_singleton.2 rfl
  | execute ixs accounts commit =>
      cases commit with
      | false => cases hp
      | true =>
          obtain ⟨q, hq, rfl⟩ := List.mem_map.1 hp
          cases hout : (svm.executeInner cr rt ixs accounts true).2 with
          | error message => simp [hout, writtenBack] at hq
          | ok r =>
              cases hok : r.isOk with
              | false => simp [hout, writtenBack, hok] at hq
              | true =>
                  simp only [hout, writtenBack, hok, if_true] at hq
                  obtain ⟨a, ha, rfl⟩ := List.mem_map.1 hq
                  have hown := (List.mem_filter.1 ha).2
                  exact of_decide_eq_true hown
  | _ => cases hp

/-! ## The view of the store -/

/-- What `get_account` shows of the account under a key. -/
def view (svm : QuasarSvm) (k : Pubkey) : Option LedgerEntry :=
  (svm.getAccount k).map Account.entry

theorem view_eq (svm : QuasarSvm) (k : Pubkey) :
    svm.view k = (svm.accounts.lookup k).map SolanaAccount.entry := by
  rw [view, getAccount, Option.map_map]
  rfl

/-- The store shows under every key what the ledger has there. -/
def Agrees (svm : QuasarSvm) (ledger : StoreLedger) : Prop :=
  ∀ k, svm.view k = ledger.lookup k

/-- The ledger of a store as it is. -/
def ledger (svm : QuasarSvm) : StoreLedger :=
  Book.ofPairs ((HashMap.toPairs svm.accounts).map fun p => (p.1, p.2.entry))

theorem agrees_ledger (svm : QuasarSvm) : svm.Agrees svm.ledger := by
  intro k
  -- Each key is stored once, so the last of its pairs is the only one.
  have hpairs : HashMap.lastOf k (HashMap.toPairs svm.accounts) = svm.accounts.lookup k := by
    rw [HashMap.lastOf_eq_firstOf_of_nodup (HashMap.nodup_keys_toPairs svm.accounts),
      HashMap.firstOf_toPairs]
  calc
    svm.view k = (svm.accounts.lookup k).map SolanaAccount.entry := view_eq svm k
    _ = (HashMap.lastOf k (HashMap.toPairs svm.accounts)).map SolanaAccount.entry := by rw [hpairs]
    _ = HashMap.lastOf k ((HashMap.toPairs svm.accounts).map fun p => (p.1, p.2.entry)) :=
        (HashMap.lastOf_map (fun _ => SolanaAccount.entry) k _).symm
    _ = svm.ledger.lookup k := (Book.lookup_ofPairs _ k).symm

/-- A VM that differs in one stored account differs in what is seen under its key. -/
theorem view_insert (svm : QuasarSvm) (k' : Pubkey) (a : SolanaAccount) (k : Pubkey) :
    ({ svm with accounts := svm.accounts.insert k' a } : QuasarSvm).view k =
      if k = k' then some a.entry else svm.view k := by
  rw [view_eq, view_eq, HashMap.lookup_insert_eq]
  by_cases hk : k = k'
  · subst hk
    simp
  · simp [hk, Ne.symm hk]

/-! ## Operations on one key -/

/-- A posting to a ledger that agrees with the store keeps the agreement when the store changes in the
same way. -/
theorem agrees_post {svm' : QuasarSvm} {ledger : StoreLedger} {p : Posting Pubkey LedgerEntry}
    (h : svm.Agrees ledger)
    (hview : ∀ k, svm'.view k = if k = p.key then p.change (svm.view p.key) else svm.view k) :
    svm'.Agrees (ledger.post p) := by
  intro k
  rw [hview, Book.lookup_post, ← h, ← h]

/-- Replacing the data of a stored account. -/
theorem view_replaceData {address : Pubkey} {acct : SolanaAccount} {f : Bytes → Bytes}
    (hlookup : svm.accounts.lookup address = some acct) (k : Pubkey) :
    ({ svm with
        accounts := svm.accounts.insert address { acct with data := f acct.data } } :
          QuasarSvm).view k =
      if k = address then (svm.view address).map (LedgerEntry.mapData f) else svm.view k := by
  have haddress : (svm.view address).map (LedgerEntry.mapData f) =
      some (LedgerEntry.mapData f acct.entry) := by
    rw [view_eq, hlookup, Option.map_some, Option.map_some]
  rw [view_insert, haddress]
  rfl

/-- A store that stays, since there is nothing to change under the address. -/
theorem view_unchanged {address : Pubkey} {f : LedgerEntry → LedgerEntry}
    (h : ∀ e, svm.view address = some e → f e = e) (k : Pubkey) :
    svm.view k = if k = address then (svm.view address).map f else svm.view k := by
  by_cases hk : k = address
  · subst hk
    rw [if_pos rfl]
    cases hview : svm.view k with
    | none => rfl
    | some e => exact congrArg some (h e hview).symm
  · rw [if_neg hk]

/-- A call that applies `f` to the data of a stored account, or that leaves the store alone since
there is none or `f` would not change its data. -/
def AppliesToData (svm svm' : QuasarSvm) (address : Pubkey) (f : Bytes → Bytes) : Prop :=
  match svm.accounts.lookup address with
  | none => svm' = svm
  | some acct =>
      (svm' = svm ∧ f acct.data = acct.data) ∨
        svm' =
          { svm with accounts := svm.accounts.insert address { acct with data := f acct.data } }

theorem view_of_appliesToData {svm' : QuasarSvm} {address : Pubkey} {f : Bytes → Bytes}
    (h : AppliesToData svm svm' address f) (k : Pubkey) :
    svm'.view k =
      if k = address then (svm.view address).map (LedgerEntry.mapData f) else svm.view k := by
  unfold AppliesToData at h
  cases hlookup : svm.accounts.lookup address with
  | none =>
      rw [hlookup] at h
      rw [h]
      refine view_unchanged ?_ k
      intro e he
      simp [view_eq, hlookup] at he
  | some acct =>
      rw [hlookup] at h
      rcases h with ⟨hsame, hdata⟩ | hreplaced
      · rw [hsame]
        refine view_unchanged ?_ k
        intro e he
        rw [view_eq, hlookup] at he
        cases he
        simp [LedgerEntry.mapData, SolanaAccount.entry, hdata]
      · rw [hreplaced]
        exact view_replaceData hlookup k

theorem appliesToData_setTokenBalance (svm : QuasarSvm) (address : Pubkey) (amount : UInt64) :
    AppliesToData svm (svm.setTokenBalance cr address amount).1 address (withAmount cr amount) := by
  unfold AppliesToData setTokenBalance
  cases svm.accounts.lookup address with
  | none => rfl
  | some acct =>
      dsimp only
      cases hunpack : cr.unpackTokenAccount acct.data with
      | none => exact Or.inl ⟨rfl, by simp [withAmount, hunpack]⟩
      | some token => exact Or.inr (by simp [withAmount, hunpack])

theorem appliesToData_setMintSupply (svm : QuasarSvm) (address : Pubkey) (supply : UInt64) :
    AppliesToData svm (svm.setMintSupply cr address supply).1 address (withSupply cr supply) := by
  unfold AppliesToData setMintSupply
  cases svm.accounts.lookup address with
  | none => rfl
  | some acct =>
      dsimp only
      cases hunpack : cr.unpackMint acct.data with
      | none => exact Or.inl ⟨rfl, by simp [withSupply, hunpack]⟩
      | some mint => exact Or.inr (by simp [withSupply, hunpack])

/-! ## Airdrops -/

/-- The balance of the key and the amount fit into 64 bits together. -/
def AirdropFits (svm : QuasarSvm) (pubkey : Pubkey) (lamports : UInt64) : Prop :=
  svm.lamportsAt pubkey + lamports.toNat < 2 ^ 64

/-- An airdrop posts what it stores, exactly when the sum fits. -/
theorem view_airdrop_iff (cr : Crates) (svm : QuasarSvm) (pubkey : Pubkey) (lamports : UInt64) :
    (svm.airdrop cr pubkey lamports).view pubkey =
        (airdropPosting cr pubkey lamports).change (svm.view pubkey) ↔
      svm.AirdropFits pubkey lamports := by
  have hlamports := lamports.toNat_lt
  unfold airdrop
  rw [view_insert, if_pos rfl, view_eq]
  cases hlookup : svm.accounts.lookup pubkey with
  | none =>
      -- A new account holds the amount, which always fits.
      have hfits : svm.AirdropFits pubkey lamports := by
        simp [AirdropFits, lamportsAt, hlookup, hlamports]
      exact iff_of_true rfl hfits
  | some a =>
      have hold := a.lamports.toNat_lt
      have hsum : (a.lamports + lamports).toNat = (a.lamports.toNat + lamports.toNat) % 2 ^ 64 :=
        UInt64.toNat_add a.lamports lamports
      rw [AirdropFits, lamportsAt_of_lookup hlookup]
      by_cases hfits : a.lamports.toNat + lamports.toNat < 2 ^ 64
      · rw [Nat.mod_eq_of_lt hfits] at hsum
        have hcredit := LedgerEntry.credit_of_fits (e := a.entry) hfits
        refine iff_of_true ?_ hfits
        change some (SolanaAccount.entry _) = some (a.entry.credit lamports.toNat)
        rw [hcredit]
        exact congrArg (fun n => some { a.entry with lamports := n }) hsum
      · -- The wrapped sum is below the old balance, which the ledger keeps.
        have hless : (a.lamports + lamports).toNat < a.lamports.toNat := by omega
        have hcredit := LedgerEntry.credit_of_not_fits (e := a.entry) hfits
        refine iff_of_false ?_ hfits
        intro hsame
        have hentry := (Option.some.inj hsame).trans hcredit
        exact hless.ne (congrArg LedgerEntry.lamports hentry)

/-! ## Executions -/

/-- What a call that succeeds writes back under a key it is about. -/
theorem lastOf_writtenBack (cr : Crates) (keys : List Pubkey)
    (merged resulting : List (Pubkey × SolanaAccount)) (logs : List String) {o : MessageOutcome}
    (hok : o.rawResult = .ok ()) (k : Pubkey) :
    HashMap.lastOf k (writtenBack keys (.ok (report cr merged resulting logs o))) =
      if k ∈ keys then (HashMap.lastOf k resulting).map SolanaAccount.entry else none := by
  have hisOk : (report cr merged resulting logs o).isOk = true := by
    simp [report, ExecutionResult.isOk, hok]
  have hlist : writtenBack keys (.ok (report cr merged resulting logs o)) =
      (resulting.filter fun p => decide (p.1 ∈ keys)).map fun p => (p.1, p.2.entry) := by
    rw [writtenBack, if_pos hisOk, report, pairsToSvmAccounts, List.filter_map, List.map_map]
    rfl
  have hvalues := HashMap.lastOf_map (fun _ => SolanaAccount.entry) k
    (resulting.filter fun p => decide (p.1 ∈ keys))
  have hfilter := HashMap.lastOf_filter (fun k => decide (k ∈ keys)) k resulting
  rw [hlist, hvalues, hfilter]
  by_cases hk : k ∈ keys
  · simp [hk]
  · simp [hk]

/-- The store after a commit: the written accounts, and the others as they were. -/
theorem view_commit {o : MessageOutcome} (hrun : svm.run cr rt ixs accounts = some o)
    (hok : o.rawResult = .ok ()) (merged : List (Pubkey × SolanaAccount)) (logs : List String)
    (k : Pubkey) :
    ((svm.afterRun o).commitAccounts (svm.resultingAccounts accounts o)).view k =
      (HashMap.lastOf k (writtenBack (ownKeys cr (.execute ixs accounts true))
        (.ok (report cr merged (svm.resultingAccounts accounts o) logs o)))).or (svm.view k) := by
  rw [view_eq, lookup_commitAccounts, lastOf_writtenBack cr _ _ _ _ hok, lastOf_resultingAccounts]
  by_cases hk : k ∈ ownKeys cr (.execute ixs accounts true)
  · rw [if_pos hk]
    cases hlast : HashMap.lastOf k (svm.mergedAccounts accounts) with
    | some a => rfl
    | none =>
        -- An address that was not merged is not stored.
        rw [lastOf_mergedAccounts, Option.or_eq_none_iff] at hlast
        rw [view_eq, hlast.2]
        rfl
  · have hnot : k ∉ (cr.messageNew ixs).accountKeys ∧ k ∉ accounts.map Account.address := by
      rw [ownKeys, List.mem_append, not_or] at hk
      exact hk
    have hpassed : HashMap.lastOf k (accounts.map Account.toPair) = none := by
      rw [HashMap.lastOf_eq_none_iff, map_fst_toPair]
      exact hnot.2
    rw [if_neg hk, lastOf_mergedAccounts, hpassed, Option.none_or, Option.none_or, view_eq]
    cases hlookup : svm.accounts.lookup k with
    | none => rfl
    | some a =>
        -- A stored account that the message does not name comes back as it was.
        have hsupplied : Supplied svm accounts k := Or.inl (by simp [getAccount, hlookup])
        rw [finalAccount_eq_id hrun hsupplied hnot.1]
        rfl

theorem view_execute (svm : QuasarSvm) (ixs : List Instruction) (accounts : List Account)
    (k : Pubkey) :
    (svm.executeInner cr rt ixs accounts true).1.view k =
      (HashMap.lastOf k (writtenBack (ownKeys cr (.execute ixs accounts true))
        (svm.executeInner cr rt ixs accounts true).2)).or (svm.view k) := by
  have hcall := executeInner_execution cr rt svm ixs accounts true
  revert hcall
  generalize svm.executeInner cr rt ixs accounts true = out
  intro hcall
  cases hcall with
  | panicked hrun => rfl
  | failed o e hrun hresult =>
      have hisOk : (report cr (svm.mergedAccounts accounts) (svm.mergedAccounts accounts)
          (svm.afterRun o).drainLogs o).isOk = false := by
        simp [report, ExecutionResult.isOk, hresult]
      simp only [writtenBack, hisOk]
      rfl
  | succeeded o hrun hresult => exact view_commit hrun hresult _ _ k

/-- A simulation does not touch the store. -/
theorem view_simulate (svm : QuasarSvm) (ixs : List Instruction) (accounts : List Account)
    (k : Pubkey) : (svm.executeInner cr rt ixs accounts false).1.view k = svm.view k := by
  have hcall := executeInner_execution cr rt svm ixs accounts false
  revert hcall
  generalize svm.executeInner cr rt ixs accounts false = out
  intro hcall
  cases hcall with
  | panicked hrun => rfl
  | failed o e hrun hresult => rfl
  | succeeded o hrun hresult => rfl

/-! ## Every operation -/

/-- The condition of an operation: an airdrop has to fit. -/
def Fits (svm : QuasarSvm) : Operation → Prop
  | .airdrop pubkey lamports => svm.AirdropFits pubkey lamports
  | _ => True

/-- Where store and ledger agree, they agree after an operation exactly when it is no airdrop beyond
64 bits. -/
theorem agrees_operate_iff {ledger : StoreLedger} (h : svm.Agrees ledger) (op : Operation) :
    (svm.operate cr rt op).1.Agrees (ledger.postAll (postings cr rt svm op)) ↔ svm.Fits op := by
  cases op with
  | airdrop pubkey lamports =>
      have hother : ∀ k, k ≠ pubkey → (svm.airdrop cr pubkey lamports).view k = svm.view k := by
        intro k hk
        exact (view_insert svm pubkey _ k).trans (if_neg hk)
      rw [Fits, ← view_airdrop_iff cr]
      constructor
      · intro hagrees
        calc
          (svm.airdrop cr pubkey lamports).view pubkey
              = (ledger.post (airdropPosting cr pubkey lamports)).lookup pubkey := hagrees pubkey
          _ = (airdropPosting cr pubkey lamports).change (ledger.lookup pubkey) :=
              Book.lookup_post_self ledger (airdropPosting cr pubkey lamports)
          _ = (airdropPosting cr pubkey lamports).change (svm.view pubkey) := by rw [h pubkey]
      · intro hsame
        have hagrees : (svm.airdrop cr pubkey lamports).Agrees
            (ledger.post (airdropPosting cr pubkey lamports)) := by
          refine agrees_post h ?_
          intro k
          by_cases hk : k = pubkey
          · subst hk
            exact hsame.trans (if_pos rfl).symm
          · exact (hother k hk).trans (if_neg hk).symm
        exact hagrees
  | setAccount account =>
      have hagrees := agrees_post (p := Posting.put account.address account.entry) h
        (view_insert svm account.address account.toPair.2)
      exact iff_of_true hagrees trivial
  | createAccount pubkey space owner =>
      have hview := view_insert svm pubkey
        { lamports := cr.minimumBalance svm.sysvars.rent space
          data := List.replicate space 0
          owner := owner
          executable := false
          rentEpoch := 0 }
      have hagrees := agrees_post (p := Posting.put pubkey _) h hview
      exact iff_of_true hagrees trivial
  | setTokenBalance address amount =>
      have hagrees := agrees_post
        (p := Posting.modify address (LedgerEntry.mapData (withAmount cr amount))) h
        (view_of_appliesToData (appliesToData_setTokenBalance svm address amount))
      exact iff_of_true hagrees trivial
  | setMintSupply address supply =>
      have hagrees := agrees_post
        (p := Posting.modify address (LedgerEntry.mapData (withSupply cr supply))) h
        (view_of_appliesToData (appliesToData_setMintSupply svm address supply))
      exact iff_of_true hagrees trivial
  | execute ixs accounts commit =>
      refine iff_of_true ?_ trivial
      cases commit with
      | false =>
          intro k
          exact (view_simulate svm ixs accounts k).trans (h k)
      | true =>
          intro k
          rw [postings, Book.lookup_postAll_put, ← h k]
          exact view_execute svm ixs accounts k
  | addProgram programId loaderKey elf =>
      refine iff_of_true ?_ trivial
      intro k
      have hstore : (svm.addProgram cr programId loaderKey elf).1.accounts = svm.accounts := by
        unfold addProgram
        cases svm.programCache.addProgram cr programId loaderKey elf with
        | none => rfl
        | some programCache => rfl
      have hview : (svm.addProgram cr programId loaderKey elf).1.view k = svm.view k := by
        rw [view_eq, view_eq, hstore]
      exact hview.trans (h k)
  -- The others leave the store and the ledger alone.
  | _ => exact iff_of_true h trivial

/-- What is seen under a key determines the account there. -/
theorem getAccount_eq_of_view {svm' : QuasarSvm} (h : svm'.view k = svm.view k) :
    svm'.getAccount k = svm.getAccount k := by
  rw [view_eq, view_eq] at h
  unfold getAccount
  cases hlookup : svm.accounts.lookup k with
  | none =>
      rw [hlookup] at h
      rw [Option.map_eq_none_iff.1 h]
  | some a =>
      rw [hlookup] at h
      obtain ⟨a', ha', hentry⟩ := Option.map_eq_some_iff.1 h
      have hlamports := UInt64.toNat_inj.1 (congrArg LedgerEntry.lamports hentry)
      have hdata := congrArg LedgerEntry.data hentry
      have howner := congrArg LedgerEntry.owner hentry
      have hexecutable := congrArg LedgerEntry.executable hentry
      rw [ha', Option.map_some, Option.map_some]
      exact congrArg some ((Account.mk.injEq ..).mpr ⟨rfl, hlamports, hdata, howner, hexecutable⟩)

/-- An operation leaves the accounts under all other keys alone. -/
theorem getAccount_operate_of_not_own (svm : QuasarSvm) (op : Operation)
    (hk : k ∉ ownKeys cr op) : (svm.operate cr rt op).1.getAccount k = svm.getAccount k := by
  refine getAccount_eq_of_view ?_
  by_cases hfits : svm.Fits op
  -- The ledger of the store itself says what the store shows afterwards.
  · have hagrees : (svm.operate cr rt op).1.Agrees
        (svm.ledger.postAll (postings cr rt svm op)) :=
      (agrees_operate_iff svm.agrees_ledger op).2 hfits
    have hunposted : k ∉ (postings cr rt svm op).map Posting.key := by
      intro hmem
      obtain ⟨p, hp, rfl⟩ := List.mem_map.1 hmem
      exact hk (key_mem_ownKeys svm op hp)
    calc
      (svm.operate cr rt op).1.view k
          = (svm.ledger.postAll (postings cr rt svm op)).lookup k := hagrees k
      _ = svm.ledger.lookup k := Book.lookup_postAll_of_not_mem hunposted
      _ = svm.view k := (svm.agrees_ledger k).symm
  · -- Also an airdrop that wraps stores under its key only.
    cases op with
    | airdrop pubkey lamports =>
        have hother : k ≠ pubkey := fun h => hk (List.mem_singleton.2 h)
        exact (view_insert svm pubkey _ k).trans (if_neg hother)
    | _ => exact absurd trivial hfits

theorem lamportsAt_of_getAccount {account : Option Account} (h : svm.getAccount k = account) :
    svm.lamportsAt k = account.elim 0 fun a => a.lamports.toNat := by
  rw [← h, getAccount, lamportsAt]
  cases svm.accounts.lookup k with
  | none => rfl
  | some a => rfl

/-- An airdrop as it is promised: the balance grows by exactly the amount and the account keeps the
rest, or the call fails and the store stays, since the sum does not fit. -/
def AirdropExact (cr : Crates) (rt : Runtime) (svm : QuasarSvm) (pubkey : Pubkey)
    (lamports : UInt64) : Prop :=
  let out := svm.operate cr rt (.airdrop pubkey lamports)
  (∃ a, out.1.getAccount pubkey = some a ∧
      a.lamports.toNat = svm.lamportsAt pubkey + lamports.toNat ∧
      ∀ old, svm.getAccount pubkey = some old →
        a.owner = old.owner ∧ a.data = old.data ∧ a.executable = old.executable) ∨
    (2 ^ 64 ≤ svm.lamportsAt pubkey + lamports.toNat ∧
      (∃ message, out.2 = .done (.error message)) ∧
      ∀ k, out.1.getAccount k = svm.getAccount k)

theorem airdropExact_iff (cr : Crates) (rt : Runtime) (svm : QuasarSvm) (pubkey : Pubkey)
    (lamports : UInt64) :
    AirdropExact cr rt svm pubkey lamports ↔
      svm.lamportsAt pubkey + lamports.toNat < 2 ^ 64 := by
  constructor
  · rintro (⟨a, -, hlamports, -⟩ | ⟨-, ⟨message, hmessage⟩, -⟩)
    · -- A balance in the store has 64 bits.
      rw [← hlamports]
      exact a.lamports.toNat_lt
    · cases hmessage
  · intro hfits
    refine Or.inl ?_
    have hview := (view_airdrop_iff cr svm pubkey lamports).2 hfits
    cases hold : svm.getAccount pubkey with
    | none =>
        rw [view, view, hold] at hview
        obtain ⟨a, ha, hentry⟩ := Option.map_eq_some_iff.1 hview
        have hlamports := congrArg LedgerEntry.lamports hentry
        refine ⟨a, ha, ?_, ?_⟩
        · rw [lamportsAt_of_getAccount hold, Option.elim_none, Nat.zero_add]
          exact hlamports
        · intro old hnone
          cases hnone
    | some old =>
        have hsum := hfits
        rw [lamportsAt_of_getAccount hold, Option.elim_some] at hsum
        have hcredit := LedgerEntry.credit_of_fits (e := old.entry) hsum
        rw [view, view, hold] at hview
        obtain ⟨a, ha, hentry⟩ := Option.map_eq_some_iff.1 hview
        have hentry' := hentry.trans hcredit
        refine ⟨a, ha, ?_, ?_⟩
        · rw [lamportsAt_of_getAccount hold, Option.elim_some]
          exact congrArg LedgerEntry.lamports hentry'
        · intro old' hsame
          cases hsame
          exact ⟨congrArg LedgerEntry.owner hentry', congrArg LedgerEntry.data hentry',
            congrArg LedgerEntry.executable hentry'⟩

/-! ## Histories -/

/-- The ledger after a history. -/
def ledgerAfter (cr : Crates) (rt : Runtime) (svm : QuasarSvm) (ops : List Operation) :
    StoreLedger :=
  (machine cr rt).follow (fun ledger svm op => ledger.postAll (postings cr rt svm op)) svm.ledger
    svm ops

/-- Store and ledger agree all along a history exactly when all its airdrops fit. -/
theorem agrees_after_iff (cr : Crates) (rt : Runtime) (svm : QuasarSvm) (ops : List Operation) :
    (∀ pre post, ops = pre ++ post →
        (svm.after cr rt pre).Agrees (svm.ledgerAfter cr rt pre)) ↔
      ∀ pre pubkey lamports post, ops = pre ++ .airdrop pubkey lamports :: post →
        (svm.after cr rt pre).lamportsAt pubkey + lamports.toNat < 2 ^ 64 := by
  have hstep : ∀ (svm : QuasarSvm) (ledger : StoreLedger) (op : Operation), svm.Agrees ledger →
      (((machine cr rt).step svm op).1.Agrees (ledger.postAll (postings cr rt svm op)) ↔
        svm.Fits op) :=
    fun _ _ op h => agrees_operate_iff h op
  have hrelated : (∀ pre post, ops = pre ++ post →
      (svm.after cr rt pre).Agrees (svm.ledgerAfter cr rt pre)) ↔
        ∀ pre op post, ops = pre ++ op :: post → (svm.after cr rt pre).Fits op :=
    Machine.related_iff (R := Agrees) (Q := Fits) hstep svm.agrees_ledger ops
  rw [hrelated]
  constructor
  · intro hfits pre pubkey lamports post hops
    exact hfits pre (.airdrop pubkey lamports) post hops
  · intro hairdrops pre op post hops
    cases op with
    | airdrop pubkey lamports => exact hairdrops pre pubkey lamports post hops
    | _ => exact trivial

/-- The store is an exact ledger up to the airdrops that wrap: an operation changes its own keys
only, an airdrop is exact exactly when the sum fits, and so is a whole history. -/
theorem store_exact_iff (cr : Crates) (rt : Runtime) (svm : QuasarSvm) :
    (∀ op k, k ∉ ownKeys cr op → (svm.operate cr rt op).1.getAccount k = svm.getAccount k) ∧
    (∀ pubkey lamports, AirdropExact cr rt svm pubkey lamports ↔
      svm.lamportsAt pubkey + lamports.toNat < 2 ^ 64) ∧
    ∀ ops,
      (∀ pre post, ops = pre ++ post →
        (svm.after cr rt pre).Agrees (svm.ledgerAfter cr rt pre)) ↔
      ∀ pre pubkey lamports post, ops = pre ++ .airdrop pubkey lamports :: post →
        (svm.after cr rt pre).lamportsAt pubkey + lamports.toNat < 2 ^ 64 :=
  ⟨fun op _ hk => getAccount_operate_of_not_own svm op hk, airdropExact_iff cr rt svm,
    agrees_after_iff cr rt svm⟩

/-- Two airdrops to one address: the second one makes the balance 0, where the sum is `2 ^ 64`. -/
theorem airdrop_wraps :
    let cr := Reference.crates
    let rt := Reference.idleRuntime
    let key := Pubkey.filled 1
    let rich := Reference.emptyVm.after cr rt [.airdrop key 18446744073709551615]
    (rich.getAccount key).map Account.lamports = some 18446744073709551615 ∧
      ((rich.after cr rt [.airdrop key 1]).getAccount key).map Account.lamports = some 0 ∧
      ¬ AirdropExact cr rt rich key 1 ∧
      ¬ ∀ pre post, [Operation.airdrop key 18446744073709551615, .airdrop key 1] = pre ++ post →
        (Reference.emptyVm.after cr rt pre).Agrees (Reference.emptyVm.ledgerAfter cr rt pre) := by
  have hnot : ¬ (Reference.emptyVm.after Reference.crates Reference.idleRuntime
      [.airdrop (Pubkey.filled 1) 18446744073709551615]).lamportsAt (Pubkey.filled 1) +
        (1 : UInt64).toNat < 2 ^ 64 := by
    decide
  refine ⟨by decide, by decide, ?_, ?_⟩
  · intro hexact
    exact hnot ((airdropExact_iff _ _ _ _ _).1 hexact)
  · intro hagrees
    exact hnot ((agrees_after_iff _ _ _ _).1 hagrees
      [.airdrop (Pubkey.filled 1) 18446744073709551615] (Pubkey.filled 1) 1 [] rfl)

end QuasarSvm
end Svm
end Quasar
