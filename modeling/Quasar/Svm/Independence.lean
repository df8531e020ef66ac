import Quasar.Lib.Footprint
import Quasar.Svm.Atomicity
import Quasar.Svm.Listing
import Quasar.Svm.StoreLedger

/-!
# Independence — which operations may change places

An operation reads and writes a few parts of the VM: the account under a key, the programs under an
id, a sysvar, the compute budget.  An execution reads all of them, writes programs, and writes accounts
when it commits.  Of two histories in which operations that depend on each other stand in the same
order, each can reply and leave the VM as the other one does: the orders that executions draw may
change places with them.
-/

namespace Quasar
namespace Svm

open Lib

/-- The parts of a VM that operations read and write. -/
inductive Resource
  | account (pubkey : Pubkey)
  | program (id : Pubkey)
  | rent
  /-- The clock and the other sysvars. -/
  | time
  | computeBudget

namespace Operation

def Reads : Operation → Resource → Prop
  | .setAccount _, _ => False
  | .getAccount pubkey, r => r = .account pubkey
  | .addProgram _ _ _, _ => False
  | .loadProgram programId, r => r = .program programId
  | .airdrop pubkey _, r => r = .account pubkey
  -- The lamports of a new account are its minimum balance.
  | .createAccount _ _ _, r => r = .rent
  | .setTokenBalance address _, r => r = .account address
  | .setMintSupply address _, r => r = .account address
  | .warpToTimestamp _, r => r = .time
  | .warpToSlot _, r => r = .time
  | .setSysvars _, _ => False
  | .setComputeBudget _, _ => False
  | .execute _ _ _, _ => True

def Writes : Operation → Resource → Prop
  | .setAccount account, r => r = .account account.address
  | .getAccount _, _ => False
  | .addProgram programId _ _, r => r = .program programId
  | .loadProgram _, _ => False
  | .airdrop pubkey _, r => r = .account pubkey
  | .createAccount pubkey _ _, r => r = .account pubkey
  | .setTokenBalance address _, r => r = .account address
  | .setMintSupply address _, r => r = .account address
  | .warpToTimestamp _, r => r = .time
  | .warpToSlot _, r => r = .time
  | .setSysvars _, r => r = .rent ∨ r = .time
  | .setComputeBudget _, r => r = .computeBudget
  -- Also a failed or simulated execution leaves programs in the cache.
  | .execute _ _ commit, r => (∃ id, r = .program id) ∨ (commit = true ∧ ∃ k, r = .account k)

/-- One of the operations writes what the other one reads or writes. -/
def Depends : Operation → Operation → Prop :=
  Machine.DependsOn Reads Writes

end Operation

/-- The sysvars with another rent. -/
def Sysvars.withRent (sv : Sysvars) (rent : Rent) : Sysvars :=
  { sv with rent := rent }

namespace QuasarSvm

/-- The VMs hold the same at one resource. -/
def SameAt : Resource → QuasarSvm → QuasarSvm → Prop
  | .account k, svm, svm' => svm'.accounts.lookup k = svm.accounts.lookup k
  | .program id, svm, svm' =>
      svm'.programCache.cache.modifiedEntries.lookup id =
          svm.programCache.cache.modifiedEntries.lookup id ∧
        svm'.programCache.cache.entries.lookup id = svm.programCache.cache.entries.lookup id ∧
        svm'.programCache.entries.lookup id = svm.programCache.entries.lookup id
  | .rent, svm, svm' => svm'.sysvars.rent = svm.sysvars.rent
  | .time, svm, svm' => ∀ rent, svm'.sysvars.withRent rent = svm.sysvars.withRent rent
  | .computeBudget, svm, svm' => svm'.computeBudget = svm.computeBudget

variable {cr : Crates} {rt : Runtime} {svm svm' : QuasarSvm} {op : Operation} {k : Pubkey}

theorem sameAt_equivalence (r : Resource) : Equivalence (SameAt r) := by
  cases r with
  | account k => exact ⟨fun _ => rfl, fun h => h.symm, fun h h' => h'.trans h⟩
  | program id =>
      refine ⟨fun _ => ⟨rfl, rfl, rfl⟩, ?_, ?_⟩
      · intro _ _ h
        exact ⟨h.1.symm, h.2.1.symm, h.2.2.symm⟩
      · intro _ _ _ h h'
        exact ⟨h'.1.trans h.1, h'.2.1.trans h.2.1, h'.2.2.trans h.2.2⟩
  | rent => exact ⟨fun _ => rfl, fun h => h.symm, fun h h' => h'.trans h⟩
  | time =>
      refine ⟨fun _ _ => rfl, fun h rent => (h rent).symm, ?_⟩
      intro _ _ _ h h' rent
      exact (h' rent).trans (h rent)
  | computeBudget => exact ⟨fun _ => rfl, fun h => h.symm, fun h h' => h'.trans h⟩

/-! ## VMs that are the same at every resource -/

/-- They differ in their loggers and in the order of their maps only. -/
theorem sameAt_all_iff :
    (∀ r, SameAt r svm svm') ↔ ∃ u, SamePrograms svm u ∧ Reordered u svm' := by
  constructor
  · intro h
    have hsysvars : svm'.sysvars = svm.sysvars := by
      calc svm'.sysvars
          = svm'.sysvars.withRent svm'.sysvars.rent := rfl
        _ = svm.sysvars.withRent svm'.sysvars.rent := h .time _
        _ = svm.sysvars.withRent svm.sysvars.rent :=
            congrArg svm.sysvars.withRent (h .rent)
    have hbudget : svm'.computeBudget = svm.computeBudget := h .computeBudget
    refine ⟨{ svm with logger := svm'.logger, programCache := svm'.programCache }, ?_, ?_⟩
    · refine ⟨svm'.logger, svm'.programCache, ⟨fun id => ⟨?_, ?_⟩, fun id => ?_⟩, rfl⟩
      · exact (h (.program id)).1
      · exact (h (.program id)).2.1
      · exact (h (.program id)).2.2
    · have hstored : svm' = { svm with
          logger := svm'.logger
          programCache := svm'.programCache
          accounts := svm'.accounts } := by rw [← hsysvars, ← hbudget]
      exact reordered_of_lookup hstored fun k => h (.account k)
  · rintro ⟨u, ⟨logger, pc, ⟨hcaches, hrecorded⟩, rfl⟩, hreordered⟩ r
    have hlookup := hreordered.lookup_eq
    rcases hreordered with ⟨store, _, rfl⟩
    cases r with
    | account k => exact hlookup k
    | program id => exact ⟨(hcaches id).1, (hcaches id).2, hrecorded id⟩
    | rent => rfl
    | time => exact fun _ => rfl
    | computeBudget => rfl

/-- An execution cannot tell them apart, and leaves them like that. -/
theorem executeInner_of_sameAt (cr : Crates) (rt : Runtime) (h : ∀ r, SameAt r svm svm')
    (ixs : List Instruction) (accounts : List Account) (commit : Bool) :
    (Reply.executed (svm.executeInner cr rt ixs accounts commit).2).unordered =
        (Reply.executed (svm'.executeInner cr rt ixs accounts commit).2).unordered ∧
      ∀ r, SameAt r (svm.executeInner cr rt ixs accounts commit).1
        (svm'.executeInner cr rt ixs accounts commit).1 := by
  rcases sameAt_all_iff.1 h with ⟨u, hprograms, hreordered⟩
  rcases hprograms.executeInner cr rt ixs accounts commit with ⟨hreply, hnext⟩
  rcases hreordered.executeInner cr rt ixs accounts commit with ⟨hreply', hnext'⟩
  rw [hreply]
  exact ⟨hreply', sameAt_all_iff.2 ⟨_, hnext, hnext'⟩⟩

/-! ## What operations leave at a resource -/

/-- What an operation that is no execution leaves under a key. -/
def leftAt (cr : Crates) (rent : Rent) (k : Pubkey) :
    Operation → Option SolanaAccount → Option SolanaAccount
  | .setAccount account, old => if account.address = k then some account.toPair.2 else old
  | .airdrop pubkey lamports, old =>
      if pubkey = k then
        some (match old with
          | some a => { a with lamports := a.lamports + lamports, rentEpoch := 0 }
          | none =>
              { SolanaAccount.default with lamports := lamports, owner := cr.systemProgramId })
      else
        old
  | .createAccount pubkey space owner, old =>
      if pubkey = k then
        some
          { lamports := cr.minimumBalance rent space
            data := List.replicate space 0
            owner := owner
            executable := false
            rentEpoch := 0 }
      else
        old
  | .setTokenBalance address amount, old =>
      if address = k then old.map fun a => { a with data := withAmount cr amount a.data } else old
  | .setMintSupply address supply, old =>
      if address = k then old.map fun a => { a with data := withSupply cr supply a.data } else old
  | _, old => old

def Executes : Operation → Prop
  | .execute _ _ _ => True
  | _ => False

theorem lookup_of_appliesToData {address : Pubkey} {f : Bytes → Bytes}
    (h : AppliesToData svm svm' address f) (k : Pubkey) :
    svm'.accounts.lookup k =
      if address = k then (svm.accounts.lookup k).map fun a => { a with data := f a.data }
      else svm.accounts.lookup k := by
  unfold AppliesToData at h
  cases hlookup : svm.accounts.lookup address with
  | none =>
      rw [hlookup] at h
      rw [h]
      by_cases hk : address = k
      · rw [if_pos hk, ← hk, hlookup]
        rfl
      · rw [if_neg hk]
  | some acct =>
      rw [hlookup] at h
      rcases h with ⟨hsame, hdata⟩ | hreplaced
      · rw [hsame]
        by_cases hk : address = k
        · rw [if_pos hk, ← hk, hlookup, Option.map_some, hdata]
        · rw [if_neg hk]
      · rw [hreplaced]
        refine (HashMap.lookup_insert_eq _ _ _ _).trans ?_
        by_cases hk : address = k
        · rw [if_pos hk, if_pos hk, ← hk, hlookup]
          rfl
        · rw [if_neg hk, if_neg hk]

theorem lookup_operate (cr : Crates) (rt : Runtime) (svm : QuasarSvm) (k : Pubkey)
    (h : ¬ Executes op) :
    (svm.operate cr rt op).1.accounts.lookup k =
      leftAt cr svm.sysvars.rent k op (svm.accounts.lookup k) := by
  cases op with
  | setAccount account => exact HashMap.lookup_insert_eq _ _ _ _
  | airdrop pubkey lamports =>
      refine (HashMap.lookup_insert_eq _ _ _ _).trans ?_
      by_cases hk : pubkey = k
      · subst hk
        exact (if_pos rfl).trans (if_pos rfl).symm
      · exact (if_neg hk).trans (if_neg hk).symm
  | createAccount pubkey space owner => exact HashMap.lookup_insert_eq _ _ _ _
  | setTokenBalance address amount =>
      exact lookup_of_appliesToData (appliesToData_setTokenBalance svm address amount) k
  | setMintSupply address supply =>
      exact lookup_of_appliesToData (appliesToData_setMintSupply svm address supply) k
  | addProgram programId loaderKey elf =>
      simp only [operate, addProgram]
      cases svm.programCache.addProgram cr programId loaderKey elf with
      | none => rfl
      | some programCache => rfl
  | execute ixs accounts commit => exact absurd trivial h
  | _ => rfl

/-- The sysvars are left alone by all but the setters. -/
def sysvarsAfter (cr : Crates) : Operation → Sysvars → Sysvars
  | .warpToTimestamp timestamp, sv =>
      { sv with clock := { sv.clock with unixTimestamp := timestamp } }
  | .warpToSlot slot, sv => sv.warpToSlot cr slot
  | .setSysvars sysvars, _ => sysvars
  | _, sv => sv

def budgetAfter : Operation → ComputeBudget → ComputeBudget
  | .setComputeBudget computeBudget, _ => computeBudget
  | _, budget => budget

theorem executeInner_sysvars (cr : Crates) (rt : Runtime) (svm : QuasarSvm)
    (ixs : List Instruction) (accounts : List Account) (commit : Bool) :
    (svm.executeInner cr rt ixs accounts commit).1.sysvars = svm.sysvars ∧
      (svm.executeInner cr rt ixs accounts commit).1.computeBudget = svm.computeBudget := by
  have hexecution := executeInner_execution cr rt svm ixs accounts commit
  generalize svm.executeInner cr rt ixs accounts commit = out at hexecution
  cases hexecution with
  | panicked hrun => exact ⟨rfl, rfl⟩
  | failed o e hrun hresult => exact ⟨rfl, rfl⟩
  | succeeded o hrun hresult =>
      cases commit with
      | false => exact ⟨rfl, rfl⟩
      | true => exact ⟨rfl, rfl⟩

theorem sysvars_operate (cr : Crates) (rt : Runtime) (svm : QuasarSvm) (op : Operation) :
    (svm.operate cr rt op).1.sysvars = sysvarsAfter cr op svm.sysvars ∧
      (svm.operate cr rt op).1.computeBudget = budgetAfter op svm.computeBudget := by
  have hrewrites : ∀ {svm' : QuasarSvm} {address : Pubkey}, RewritesData svm svm' address →
      svm'.sysvars = svm.sysvars ∧ svm'.computeBudget = svm.computeBudget := by
    intro svm' address h
    rcases h with rfl | ⟨acct, data, _, rfl⟩
    · exact ⟨rfl, rfl⟩
    · exact ⟨rfl, rfl⟩
  cases op with
  | execute ixs accounts commit => exact executeInner_sysvars cr rt svm ixs accounts commit
  | setTokenBalance address amount => exact hrewrites (rewritesData_setTokenBalance cr svm _ _)
  | setMintSupply address supply => exact hrewrites (rewritesData_setMintSupply cr svm _ _)
  | addProgram programId loaderKey elf =>
      simp only [operate, addProgram]
      cases svm.programCache.addProgram cr programId loaderKey elf with
      | none => exact ⟨rfl, rfl⟩
      | some programCache => exact ⟨rfl, rfl⟩
  | _ => exact ⟨rfl, rfl⟩

/-! ## The footprint of the engine -/

theorem leftAt_of_not_writes (rent : Rent) (h : ¬ op.Writes (.account k))
    (old : Option SolanaAccount) : leftAt cr rent k op old = old := by
  cases op with
  | setAccount account => exact if_neg fun hk => h (congrArg Resource.account hk.symm)
  | airdrop pubkey lamports => exact if_neg fun hk => h (congrArg Resource.account hk.symm)
  | createAccount pubkey space owner =>
      exact if_neg fun hk => h (congrArg Resource.account hk.symm)
  | setTokenBalance address amount =>
      exact if_neg fun hk => h (congrArg Resource.account hk.symm)
  | setMintSupply address supply => exact if_neg fun hk => h (congrArg Resource.account hk.symm)
  | _ => rfl

theorem leftAt_rent {rent rent' : Rent} (h : op.Reads .rent → rent' = rent) (k : Pubkey)
    (old : Option SolanaAccount) : leftAt cr rent' k op old = leftAt cr rent k op old := by
  cases op with
  | createAccount pubkey space owner => rw [h rfl]
  | _ => rfl

theorem programs_of_not_writes {id : Pubkey} (h : ¬ op.Writes (.program id)) :
    storedEntry cr rt id svm op = none ∧ addedProgram cr id op = none := by
  cases op with
  | addProgram programId loaderKey elf =>
      exact ⟨rfl, if_neg fun hid => h (congrArg Resource.program hid.symm)⟩
  | execute ixs accounts commit => exact absurd (Or.inl ⟨id, rfl⟩) h
  | _ => exact ⟨rfl, rfl⟩

theorem storedEntry_of_not_executes (h : ¬ Executes op) (id : Pubkey) :
    storedEntry cr rt id svm op = none := by
  cases op with
  | execute ixs accounts commit => exact absurd trivial h
  | _ => rfl

theorem sysvarsAfter_withRent (h : ¬ op.Writes .rent) (sv : Sysvars) (rent : Rent) :
    (sysvarsAfter cr op sv).withRent rent = sysvarsAfter cr op (sv.withRent rent) := by
  cases op with
  | setSysvars sysvars => exact absurd (Or.inl rfl) h
  | _ => rfl

/-- What an operation does not write stays. -/
theorem sameAt_frame (cr : Crates) (rt : Runtime) (svm : QuasarSvm) (op : Operation) (r : Resource)
    (h : ¬ op.Writes r) : SameAt r svm (svm.operate cr rt op).1 := by
  cases r with
  | account k =>
      by_cases hexecutes : Executes op
      · cases op with
        | execute ixs accounts commit =>
            cases commit with
            | true => exact absurd (Or.inr ⟨rfl, k, rfl⟩) h
            | false =>
                have hstore :=
                  (executeInner_execution cr rt svm ixs accounts false).accounts_of_simulated
                exact congrArg (AList.lookup k) hstore
        | _ => exact absurd hexecutes id
      · exact (lookup_operate cr rt svm k hexecutes).trans (leftAt_of_not_writes _ h _)
  | program id =>
      rcases programCache_operate cr rt svm id op with ⟨hmodified, hbase, hrecorded⟩
      have hnone : storedEntry cr rt id svm op = none ∧ addedProgram cr id op = none :=
        programs_of_not_writes h
      rcases hnone with ⟨hstored, hadded⟩
      rw [hstored, Option.none_or] at hmodified
      rw [hadded, Option.map_none, Option.none_or] at hbase hrecorded
      exact ⟨hmodified, hbase, hrecorded⟩
  | rent =>
      refine (congrArg Sysvars.rent (sysvars_operate cr rt svm op).1).trans ?_
      cases op with
      | setSysvars sysvars => exact absurd (Or.inl rfl) h
      | _ => rfl
  | time =>
      -- Everything but the rent, compared under one rent.
      intro rent
      rw [(sysvars_operate cr rt svm op).1]
      cases op with
      | setSysvars sysvars => exact absurd (Or.inr rfl) h
      | warpToSlot slot => exact absurd rfl h
      | warpToTimestamp timestamp => exact absurd rfl h
      | _ => rfl
  | computeBudget =>
      refine (sysvars_operate cr rt svm op).2.trans ?_
      cases op with
      | setComputeBudget computeBudget => exact absurd rfl h
      | _ => rfl

/-- The reply is read off what the operation reads. -/
theorem sameAt_reply (cr : Crates) (rt : Runtime) (svm svm' : QuasarSvm) (op : Operation)
    (h : ∀ r, op.Reads r → SameAt r svm svm') :
    (svm.operate cr rt op).2.unordered = (svm'.operate cr rt op).2.unordered := by
  cases op with
  | getAccount pubkey =>
      have hlookup : svm'.accounts.lookup pubkey = svm.accounts.lookup pubkey :=
        h (.account pubkey) rfl
      simp only [operate, getAccount, hlookup]
  | addProgram programId loaderKey elf =>
      -- Whether a program can be loaded depends on its ELF and its loader alone.
      simp only [operate, addProgram, ProgramCache.addProgram]
      cases cr.programCacheEntryNew loaderKey elf with
      | none => rfl
      | some entry => rfl
  | loadProgram programId =>
      rcases h (.program programId) rfl with ⟨hmodified, hbase, _⟩
      simp only [operate, ProgramCache.loadProgram, ProgramCacheForTxBatch.find, hmodified, hbase]
  | setTokenBalance address amount =>
      have hlookup : svm'.accounts.lookup address = svm.accounts.lookup address :=
        h (.account address) rfl
      simp only [operate, setTokenBalance, hlookup]
      cases svm.accounts.lookup address with
      | none => rfl
      | some acct =>
          dsimp only
          cases cr.unpackTokenAccount acct.data with
          | none => rfl
          | some token => rfl
  | setMintSupply address supply =>
      have hlookup : svm'.accounts.lookup address = svm.accounts.lookup address :=
        h (.account address) rfl
      simp only [operate, setMintSupply, hlookup]
      cases svm.accounts.lookup address with
      | none => rfl
      | some acct =>
          dsimp only
          cases cr.unpackMint acct.data with
          | none => rfl
          | some mint => rfl
  | execute ixs accounts commit =>
      exact (executeInner_of_sameAt cr rt (fun r => h r trivial) ixs accounts commit).1
  | _ => rfl

/-- So is what it writes. -/
theorem sameAt_next (cr : Crates) (rt : Runtime) (svm svm' : QuasarSvm) (op : Operation)
    (r : Resource) (h : ∀ q, op.Reads q → SameAt q svm svm') (hr : SameAt r svm svm') :
    SameAt r (svm.operate cr rt op).1 (svm'.operate cr rt op).1 := by
  by_cases hexecutes : Executes op
  · cases op with
    | execute ixs accounts commit =>
        exact (executeInner_of_sameAt cr rt (fun q => h q trivial) ixs accounts commit).2 r
    | _ => exact absurd hexecutes id
  · cases r with
    | account k =>
        -- A rent-exempt account that is created takes its lamports from the rent.
        have hlookup : svm'.accounts.lookup k = svm.accounts.lookup k := hr
        calc (svm'.operate cr rt op).1.accounts.lookup k
            = leftAt cr svm'.sysvars.rent k op (svm'.accounts.lookup k) :=
              lookup_operate cr rt svm' k hexecutes
          _ = leftAt cr svm.sysvars.rent k op (svm.accounts.lookup k) := by
              rw [hlookup]
              exact leftAt_rent (fun hreads => h .rent hreads) k _
          _ = (svm.operate cr rt op).1.accounts.lookup k :=
              (lookup_operate cr rt svm k hexecutes).symm
    | program id =>
        rcases hr with ⟨hmodified, hbase, hrecorded⟩
        rcases programCache_operate cr rt svm id op with ⟨h₁, h₂, h₃⟩
        rcases programCache_operate cr rt svm' id op with ⟨h₁', h₂', h₃'⟩
        rw [storedEntry_of_not_executes hexecutes] at h₁ h₁'
        refine ⟨?_, ?_, ?_⟩
        · rw [h₁, h₁', hmodified]
        · rw [h₂, h₂', hbase]
        · rw [h₃, h₃', hrecorded]
    | rent =>
        have hrent : svm'.sysvars.rent = svm.sysvars.rent := hr
        calc (svm'.operate cr rt op).1.sysvars.rent
            = (sysvarsAfter cr op svm'.sysvars).rent :=
              congrArg Sysvars.rent (sysvars_operate cr rt svm' op).1
          _ = (sysvarsAfter cr op svm.sysvars).rent := by
              cases op with
              | setSysvars sysvars => rfl
              | _ => exact hrent
          _ = (svm.operate cr rt op).1.sysvars.rent :=
              congrArg Sysvars.rent (sysvars_operate cr rt svm op).1.symm
    | time =>
        intro rent
        rw [(sysvars_operate cr rt svm op).1, (sysvars_operate cr rt svm' op).1]
        by_cases hwrites : op.Writes .rent
        · -- Only setting the sysvars does, and it replaces them all.
          cases op with
          | setSysvars sysvars => rfl
          | execute ixs accounts commit => exact absurd trivial hexecutes
          | _ => cases hwrites
        · rw [sysvarsAfter_withRent hwrites, sysvarsAfter_withRent hwrites, hr rent]
    | computeBudget =>
        have hbudget : svm'.computeBudget = svm.computeBudget := hr
        rw [SameAt, (sysvars_operate cr rt svm op).2, (sysvars_operate cr rt svm' op).2, hbudget]

/-- What the operations of the engine read and write, whatever orders they draw. -/
def footprint (cr : Crates) (rt : Runtime) :
    (drawnMachine cr rt).Footprint Resource (Reply × Multiset ReportRow) :=
  { Same := SameAt
    view := Reply.unordered
    Reads := fun d => d.1.Reads
    Writes := fun d => d.1.Writes
    same := sameAt_equivalence
    frame := fun svm d => sameAt_frame (cr.withOrder d.2.iter) rt svm d.1
    reply := fun svm svm' d => sameAt_reply (cr.withOrder d.2.iter) rt svm svm' d.1
    next := fun svm svm' d => sameAt_next (cr.withOrder d.2.iter) rt svm svm' d.1 }

/-! ## Histories -/

/-- Two histories of one VM that consist of the same operations, those that depend on each other in the
same order: whatever the first one draws, the second one can draw orders with which it gives the same
replies to each operation, and with which the two VMs reply alike to everything that follows, up to the
order in which reports list accounts. -/
theorem replies_of_sameOrder (svm : QuasarSvm) {ops ops' : List Operation}
    (h : SameOrder Operation.Depends ops ops') {draws : List Drawn}
    (hdraws : draws.map Prod.fst = ops) :
    ∃ draws' : List Drawn, draws'.map Prod.fst = ops' ∧
      (∀ op, (footprint cr rt).repliesTo Prod.fst op svm draws =
        (footprint cr rt).repliesTo Prod.fst op svm draws') ∧
      ∀ more, ((drawnMachine cr rt).replies (svm.afterDrawn cr rt draws) more).map
          Reply.unordered =
        ((drawnMachine cr rt).replies (svm.afterDrawn cr rt draws') more).map Reply.unordered := by
  have hdepends : ∀ d d' : Drawn, (footprint cr rt).Depends d d' → d.1.Depends d'.1 :=
    fun _ _ h => h
  have hruns := Machine.Footprint.exists_alikeRuns_of_sameOrder hdepends (fun _ _ h => h.symm) h
    (Machine.Footprint.Alike.refl svm) hdraws
  rcases hruns with ⟨draws', hdraws', halike, hreplies⟩
  exact ⟨draws', hdraws', hreplies, fun more => halike.replies_eq more⟩

/-- A call that names and passes accounts. -/
def sampleCall : Operation :=
  .execute [Reference.instructionOn (Pubkey.filled 9) [Pubkey.filled 7]]
    [oneLamport (Pubkey.filled 2)] true

/-- A key is funded before the slot is warped, or after it. -/
theorem replies_of_sameOrder_sample :
    ∃ draws' : List Drawn,
      draws'.map Prod.fst = [.warpToSlot 3, .airdrop (Pubkey.filled 7) 5, sampleCall] ∧
      ((drawnMachine Reference.crates Reference.idleRuntime).replies
          (Reference.emptyVm.afterDrawn Reference.crates Reference.idleRuntime
            [(.airdrop (Pubkey.filled 7) 5, SetOrder.dedup), (.warpToSlot 3, SetOrder.dedup),
              (sampleCall, SetOrder.dedup)])
          [(.getAccount (Pubkey.filled 7), SetOrder.dedup)]).map Reply.unordered =
        ((drawnMachine Reference.crates Reference.idleRuntime).replies
          (Reference.emptyVm.afterDrawn Reference.crates Reference.idleRuntime draws')
          [(.getAccount (Pubkey.filled 7), SetOrder.dedup)]).map Reply.unordered := by
  have hindependent : ¬ Operation.Depends (.airdrop (Pubkey.filled 7) 5) (.warpToSlot 3) := by
    rintro ⟨r, ⟨hwrites, hother⟩ | ⟨hwrites, hreads⟩⟩
    · have hr : r = .account (Pubkey.filled 7) := hwrites
      subst hr
      rcases hother with hother | hother
      · cases hother
      · cases hother
    · have hr : r = .time := hwrites
      subst hr
      cases hreads
  have horder : SameOrder Operation.Depends
      [.airdrop (Pubkey.filled 7) 5, .warpToSlot 3, sampleCall]
      [.warpToSlot 3, .airdrop (Pubkey.filled 7) 5, sampleCall] :=
    (Reordering.swap _ _ [sampleCall] hindependent).sameOrder fun _ _ h => h.symm
  have hdraws : ([(.airdrop (Pubkey.filled 7) 5, SetOrder.dedup), (.warpToSlot 3, SetOrder.dedup),
      (sampleCall, SetOrder.dedup)] : List Drawn).map Prod.fst =
        [.airdrop (Pubkey.filled 7) 5, .warpToSlot 3, sampleCall] := rfl
  rcases replies_of_sameOrder Reference.emptyVm horder hdraws with ⟨draws', hdraws', _, hmore⟩
  exact ⟨draws', hdraws', hmore _⟩

end QuasarSvm
end Svm
end Quasar
