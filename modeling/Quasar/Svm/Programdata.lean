import Quasar.Svm.Reference
import Quasar.Svm.Resolution

/-!
# Programdata — which account stands under a programdata address

The map of fallbacks holds the programdata account of every top-level program that nobody supplied.
The late lookup for the targets of CPIs asks the cache for the key itself, which a programdata address
never is.  So a call shows the programdata account exactly when the program is one of the missing
top-level programs.
-/

namespace Quasar
namespace Svm
namespace QuasarSvm

open Lib

/-- Program-derived addresses are not the ids of sysvars, the ids of the loaders differ from each
other and from the default owner, and the two loader states have different encodings. -/
structure ProgramdataCrates (cr : Crates) : Prop where
  set_order : IsSetOrder cr.hashSetIter
  ne_sysvar : ∀ pid s, programdataAddress cr pid ≠ cr.sysvarId s
  ne_instructions : ∀ pid, programdataAddress cr pid ≠ cr.instructionsSysvarId
  native_ne_v3 : cr.nativeLoaderId ≠ cr.loaderV3Id
  v2_ne_v3 : cr.loaderV2Id ≠ cr.loaderV3Id
  default_ne_v3 : Pubkey.default ≠ cr.loaderV3Id
  states_differ : ∀ address elf, cr.serializeLoaderState (.program address) ≠
    cr.serializeLoaderState (.programData 0 none) ++ elf

variable {cr : Crates} {svm : QuasarSvm} {ixs : List Instruction} {accounts : List Account}
  {pid : Pubkey} {entry : CacheEntry}

/-- The cache has the program, as one of loader v3. -/
def CachedV3 (cr : Crates) (svm : QuasarSvm) (pid : Pubkey) (entry : CacheEntry) : Prop :=
  svm.programCache.entries.lookup pid = some entry ∧ entry.loaderKey = cr.loaderV3Id

/-- The header of a programdata account with the ELF behind it. -/
def programdataBytes (cr : Crates) (entry : CacheEntry) : Bytes :=
  cr.serializeLoaderState (.programData 0 none) ++ entry.elf.getD []

/-- The account belongs to loader v3 and holds the program's ELF behind the header. -/
def IsProgramdata (cr : Crates) (entry : CacheEntry) (a : SolanaAccount) : Prop :=
  a.owner = cr.loaderV3Id ∧ a.data = programdataBytes cr entry

/-- The transaction of the call has the programdata account under its address. -/
def ShowsProgramdata (cr : Crates) (svm : QuasarSvm) (ixs : List Instruction)
    (accounts : List Account) (pid : Pubkey) (entry : CacheEntry) : Prop :=
  ∃ a, (svm.initialContext cr ixs accounts).findAccount (programdataAddress cr pid) = some a ∧
    IsProgramdata cr entry a

/-! ## What the cache creates -/

/-- The account of a loader-v3 program. -/
def programAccount (cr : Crates) (pid : Pubkey) : SolanaAccount :=
  let data := cr.serializeLoaderState (.program (programdataAddress cr pid))
  { SolanaAccount.default with
    lamports := cr.minimumBalance cr.rentDefault data.length
    data := data
    owner := cr.loaderV3Id
    executable := true }

/-- The programdata account of a loader-v3 program. -/
def programdataAccount (cr : Crates) (entry : CacheEntry) : SolanaAccount :=
  { SolanaAccount.default with
    lamports := cr.minimumBalance cr.rentDefault (programdataBytes cr entry).length
    data := programdataBytes cr entry
    owner := cr.loaderV3Id
    executable := false }

theorem isProgramdata_programdataAccount : IsProgramdata cr entry (programdataAccount cr entry) :=
  ⟨rfl, rfl⟩

/-- A program account is no programdata account of any program. -/
theorem not_isProgramdata_programAccount (hcr : ProgramdataCrates cr) :
    ¬ IsProgramdata cr entry (programAccount cr pid) :=
  fun h => hcr.states_differ _ _ h.2

/-- Neither is an account of another owner. -/
theorem not_isProgramdata_of_owner {a : SolanaAccount} (h : a.owner ≠ cr.loaderV3Id) :
    ¬ IsProgramdata cr entry a :=
  fun hdata => h hdata.1

/-- For a loader-v3 program the cache creates both accounts. -/
theorem maybeCreateProgramAccounts_of_cachedV3 (hcr : ProgramdataCrates cr)
    (h : CachedV3 cr svm pid entry) :
    svm.programCache.maybeCreateProgramAccounts cr pid =
      [(pid, programAccount cr pid), (programdataAddress cr pid, programdataAccount cr entry)] := by
  have hnative : ¬ cr.loaderV3Id = cr.nativeLoaderId := fun heq => hcr.native_ne_v3 heq.symm
  have hv2 : ¬ cr.loaderV3Id = cr.loaderV2Id := fun heq => hcr.v2_ne_v3 heq.symm
  simp only [ProgramCache.maybeCreateProgramAccounts, h.1, h.2, hnative, hv2, if_true, if_false]
  cases helf : entry.elf with
  | none =>
      have hbytes : programdataBytes cr entry = cr.serializeLoaderState (.programData 0 none) := by
        simp [programdataBytes, helf]
      simp only [programdataAccount, hbytes]
      rfl
  | some elf =>
      have hbytes : programdataBytes cr entry =
          cr.serializeLoaderState (.programData 0 none) ++ elf := by
        simp [programdataBytes, helf]
      simp only [programdataAccount, hbytes]
      rfl

/-- What the cache creates for any id: nothing, both accounts of a loader-v3 program, or one account
that does not belong to loader v3. -/
theorem maybeCreateProgramAccounts_cases (hcr : ProgramdataCrates cr) (svm : QuasarSvm)
    (pid : Pubkey) :
    svm.programCache.maybeCreateProgramAccounts cr pid = [] ∨
      (∃ entry, CachedV3 cr svm pid entry) ∨
      ∃ a, svm.programCache.maybeCreateProgramAccounts cr pid = [(pid, a)] ∧
        a.owner ≠ cr.loaderV3Id := by
  cases hlookup : svm.programCache.entries.lookup pid with
  | none => exact Or.inl (by simp only [ProgramCache.maybeCreateProgramAccounts, hlookup])
  | some entry =>
      refine Or.inr ?_
      by_cases hv3 : entry.loaderKey = cr.loaderV3Id
      · exact Or.inl ⟨entry, hlookup, hv3⟩
      · refine Or.inr ?_
        simp only [ProgramCache.maybeCreateProgramAccounts, hlookup]
        by_cases hnative : entry.loaderKey = cr.nativeLoaderId
        · exact ⟨_, if_pos hnative, hcr.native_ne_v3⟩
        · rw [if_neg hnative]
          by_cases hv2 : entry.loaderKey = cr.loaderV2Id
          · exact ⟨_, if_pos hv2, hcr.v2_ne_v3⟩
          · rw [if_neg hv2, if_neg hv3]
            exact ⟨_, rfl, hcr.default_ne_v3⟩

/-- The account that the late lookup finds under a key is none of its programdata accounts. -/
theorem not_isProgramdata_late (hcr : ProgramdataCrates cr) (svm : QuasarSvm) (entry : CacheEntry)
    (k : Pubkey) :
    ¬ IsProgramdata cr entry
      ((HashMap.firstOf k (svm.programCache.maybeCreateProgramAccounts cr k)).getD
        SolanaAccount.default) := by
  rcases maybeCreateProgramAccounts_cases hcr svm k with hnil | ⟨entry', hentry'⟩ | ⟨a, ha, howner⟩
  · simpa [hnil] using not_isProgramdata_of_owner (a := SolanaAccount.default) hcr.default_ne_v3
  · have hlist := maybeCreateProgramAccounts_of_cachedV3 hcr hentry'
    simpa [hlist, HashMap.firstOf_cons] using not_isProgramdata_programAccount hcr
  · simpa [ha, HashMap.firstOf_cons] using not_isProgramdata_of_owner howner

/-! ## The fallbacks of the missing programs -/

/-- The last fallback of the program's own group is its programdata account. -/
theorem lastOf_programFallbacks_self (hcr : ProgramdataCrates cr) (h : CachedV3 cr svm pid entry) :
    HashMap.lastOf (programdataAddress cr pid) (svm.programFallbacks cr pid) =
      some (programdataAccount cr entry) := by
  have hlist := maybeCreateProgramAccounts_of_cachedV3 hcr h
  simp [programFallbacks, hlist, HashMap.lastOf_cons]

/-- Among the loader-v3 programs of the cache the programdata address tells a program apart. -/
def OwnAddress (cr : Crates) (svm : QuasarSvm) (pid : Pubkey) : Prop :=
  ∀ pid' entry', CachedV3 cr svm pid' entry' →
    programdataAddress cr pid' = programdataAddress cr pid → pid' = pid

/-- Of the other groups only that of a program under the programdata address itself has the address,
and what it has there is no programdata account. -/
theorem lastOf_programFallbacks_other (hcr : ProgramdataCrates cr) (hown : OwnAddress cr svm pid)
    (entry : CacheEntry) {pid' : Pubkey} (hne : pid' ≠ pid) {a : SolanaAccount}
    (h : HashMap.lastOf (programdataAddress cr pid) (svm.programFallbacks cr pid') = some a) :
    pid' = programdataAddress cr pid ∧ ¬ IsProgramdata cr entry a := by
  rcases maybeCreateProgramAccounts_cases hcr svm pid' with hnil | ⟨entry', hentry'⟩ | ⟨b, hb, howner⟩
  · -- A stub.
    simp only [programFallbacks, hnil, List.isEmpty_nil, if_true, HashMap.lastOf_cons,
      HashMap.lastOf_nil, Option.none_or, Option.ite_none_right_eq_some, Option.some.injEq] at h
    obtain ⟨hkey, rfl⟩ := h
    exact ⟨hkey, not_isProgramdata_of_owner hcr.default_ne_v3⟩
  · -- Both accounts of another loader-v3 program, whose programdata address is another one.
    have hother : ¬ programdataAddress cr pid' = programdataAddress cr pid :=
      fun heq => hne (hown pid' entry' hentry' heq)
    have hlist := maybeCreateProgramAccounts_of_cachedV3 hcr hentry'
    simp only [programFallbacks, hlist, List.isEmpty_cons, Bool.false_eq_true, if_false,
      HashMap.lastOf_cons, HashMap.lastOf_nil, Option.none_or, hother,
      Option.ite_none_right_eq_some, Option.some.injEq] at h
    obtain ⟨hkey, rfl⟩ := h
    exact ⟨hkey, not_isProgramdata_programAccount hcr⟩
  · -- The account of a program of another loader.
    simp only [programFallbacks, hb, List.isEmpty_cons, Bool.false_eq_true, if_false,
      HashMap.lastOf_cons, HashMap.lastOf_nil, Option.none_or, Option.ite_none_right_eq_some,
      Option.some.injEq] at h
    obtain ⟨hkey, rfl⟩ := h
    exact ⟨hkey, not_isProgramdata_of_owner howner⟩

/-- The group of a program has the program's own id. -/
theorem lastOf_programFallbacks_ne_none (cr : Crates) (svm : QuasarSvm) (pid' : Pubkey) :
    HashMap.lastOf pid' (svm.programFallbacks cr pid') ≠ none := by
  rw [Ne, HashMap.lastOf_eq_none_iff, not_not]
  rcases keys_programFallbacks cr svm pid' with hkeys | hkeys
  · simp [hkeys]
  · simp [hkeys]

theorem nodup_missingPrograms (hcr : ProgramdataCrates cr) :
    (missingPrograms cr svm ixs accounts).Nodup :=
  ((hcr.set_order _).1).filter _

/-- The fallback under the programdata address is the programdata account exactly when the program is
missing, and no later missing program has that address as its id. -/
theorem lastOf_fallbackPairs_programdata_iff (hcr : ProgramdataCrates cr)
    (h : CachedV3 cr svm pid entry) (hown : OwnAddress cr svm pid) :
    (∃ a, HashMap.lastOf (programdataAddress cr pid) (fallbackPairs cr svm ixs accounts) = some a ∧
        IsProgramdata cr entry a) ↔
      ∃ pre post, missingPrograms cr svm ixs accounts = pre ++ pid :: post ∧
        programdataAddress cr pid ∉ post := by
  constructor
  · rintro ⟨a, hlast, ha⟩
    obtain ⟨pre, pid', post, hsplit, hgroup, hpost⟩ := HashMap.exists_last_group hlast
    have hpid : pid' = pid := by
      by_contra hne
      exact (lastOf_programFallbacks_other hcr hown entry hne hgroup).2 ha
    subst hpid
    refine ⟨pre, post, hsplit, ?_⟩
    intro hmem
    exact lastOf_programFallbacks_ne_none cr svm _ (hpost _ hmem)
  · rintro ⟨pre, post, hsplit, hnot⟩
    refine ⟨programdataAccount cr entry, ?_, isProgramdata_programdataAccount⟩
    have hnodup : (pre ++ pid :: post).Nodup := hsplit ▸ nodup_missingPrograms hcr
    -- No other group overwrites the entry afterwards.
    have hfresh : pid ∉ post := (List.nodup_cons.1 (List.nodup_append.1 hnodup).2.1).1
    rw [fallbackPairs, hsplit]
    refine HashMap.lastOf_flatMap_last pre post (lastOf_programFallbacks_self hcr h) ?_
    intro pid' hpid'
    have hne : pid' ≠ pid := fun heq => hfresh (heq ▸ hpid')
    refine Option.eq_none_iff_forall_ne_some.2 ?_
    intro a ha
    have hkey := (lastOf_programFallbacks_other hcr hown entry hne ha).1
    exact hnot (hkey ▸ hpid')

/-! ## The transaction's account -/

/-- The transaction shows the programdata account of a cached loader-v3 program exactly when the
program is a top-level program that nobody supplied, and no program whose id is the programdata
address comes after it. -/
theorem showsProgramdata_iff (hcr : ProgramdataCrates cr) (svm : QuasarSvm) (ixs : List Instruction)
    (accounts : List Account) (pid : Pubkey) (entry : CacheEntry)
    (hcached : CachedV3 cr svm pid entry) (hown : OwnAddress cr svm pid)
    (hkey : programdataAddress cr pid ∈ (cr.messageNew ixs).accountKeys)
    (hnot : ¬ Supplied svm accounts (programdataAddress cr pid)) :
    ShowsProgramdata cr svm ixs accounts pid entry ↔
      ∃ pre post, missingPrograms cr svm ixs accounts = pre ++ pid :: post ∧
        programdataAddress cr pid ∉ post := by
  have hnosysvar : svm.sysvars.maybeCreateSysvarAccount cr (programdataAddress cr pid) = none := by
    rw [Sysvars.maybeCreateSysvarAccount, Option.map_eq_none_iff, List.find?_eq_none]
    intro s _
    simpa using hcr.ne_sysvar pid s
  have hresolved : resolved cr svm ixs accounts (programdataAddress cr pid) = _ :=
    resolved_of_not_supplied hnot
  rw [lookup_fallbacks_of_ne (hcr.ne_instructions pid), hnosysvar, Option.none_or] at hresolved
  rw [← lastOf_fallbackPairs_programdata_iff hcr hcached hown, ShowsProgramdata,
    findAccount_of_mem_keys hkey, hresolved]
  cases HashMap.lastOf (programdataAddress cr pid) (fallbackPairs cr svm ixs accounts) with
  | some a => simp
  | none =>
      -- What the late lookup finds is no programdata account.
      have hlate := not_isProgramdata_late hcr svm entry (programdataAddress cr pid)
      simp [hlate]

/-- When no instruction runs the programdata address as a program, the account is shown exactly when
the program is a top-level program that is neither stored nor passed. -/
theorem showsProgramdata_iff_of_not_run (hcr : ProgramdataCrates cr)
    (hcached : CachedV3 cr svm pid entry) (hown : OwnAddress cr svm pid)
    (hkey : programdataAddress cr pid ∈ (cr.messageNew ixs).accountKeys)
    (hnot : ¬ Supplied svm accounts (programdataAddress cr pid))
    (hrun : ∀ ix ∈ ixs, ix.programId ≠ programdataAddress cr pid) :
    ShowsProgramdata cr svm ixs accounts pid entry ↔
      (∃ ix ∈ ixs, ix.programId = pid) ∧ ¬ Supplied svm accounts pid := by
  rw [showsProgramdata_iff hcr svm ixs accounts pid entry hcached hown hkey hnot,
    ← mem_missingPrograms_iff hcr.set_order]
  constructor
  · rintro ⟨pre, post, hsplit, -⟩
    simp [hsplit]
  · intro hmem
    obtain ⟨pre, post, hsplit⟩ := List.append_of_mem hmem
    refine ⟨pre, post, hsplit, ?_⟩
    intro hpost
    have haddress : programdataAddress cr pid ∈ missingPrograms cr svm ixs accounts := by
      simp [hsplit, hpost]
    obtain ⟨⟨ix, hix, heq⟩, -⟩ := (mem_missingPrograms_iff hcr.set_order).1 haddress
    exact hrun ix hix heq

/-- Which calls show the programdata account of a cached loader-v3 program: those in which it is a
top-level program that nobody supplied.  A call that only names the program, or that finds or passes
its account, does not. -/
theorem programdata_account_iff (hcr : ProgramdataCrates cr) (svm : QuasarSvm)
    (ixs : List Instruction) (accounts : List Account) (pid : Pubkey) (entry : CacheEntry)
    (hcached : CachedV3 cr svm pid entry) (hown : OwnAddress cr svm pid)
    (hkey : programdataAddress cr pid ∈ (cr.messageNew ixs).accountKeys)
    (hnot : ¬ Supplied svm accounts (programdataAddress cr pid)) :
    (ShowsProgramdata cr svm ixs accounts pid entry ↔
        ∃ pre post, missingPrograms cr svm ixs accounts = pre ++ pid :: post ∧
          programdataAddress cr pid ∉ post) ∧
      ((∀ ix ∈ ixs, ix.programId ≠ programdataAddress cr pid) →
        (ShowsProgramdata cr svm ixs accounts pid entry ↔
          (∃ ix ∈ ixs, ix.programId = pid) ∧ ¬ Supplied svm accounts pid)) :=
  ⟨showsProgramdata_iff hcr svm ixs accounts pid entry hcached hown hkey hnot,
    showsProgramdata_iff_of_not_run hcr hcached hown hkey hnot⟩

end QuasarSvm

namespace Reference

open QuasarSvm

theorem programdataCrates_ok : ProgramdataCrates loaderCrates :=
  { set_order := fun l => ⟨List.nodup_dedup l, fun _ => List.mem_dedup⟩
    ne_sysvar := by
      intro pid s
      change Pubkey.filled 10 ≠ sysvarId s
      cases s with
      | _ => decide
    ne_instructions := by
      intro pid
      change Pubkey.filled 10 ≠ Pubkey.filled 231
      decide
    native_ne_v3 := by decide
    v2_ne_v3 := by decide
    default_ne_v3 := by decide
    states_differ := by
      intro address elf h
      have hhead := congrArg List.head? h
      simp [loaderCrates, serializeLoaderState, Lib.LittleEndian.toBytes] at hhead }

/-- A VM with one program of loader v3. -/
def programVm : QuasarSvm :=
  (emptyVm.addProgram loaderCrates (Pubkey.filled 20) loaderCrates.loaderV3Id [1, 2, 3]).1

def programEntry : CacheEntry :=
  { loaderKey := loaderCrates.loaderV3Id
    elf := some [1, 2, 3] }

theorem cachedV3_programVm : CachedV3 loaderCrates programVm (Pubkey.filled 20) programEntry :=
  ⟨rfl, rfl⟩

theorem ownAddress_programVm : OwnAddress loaderCrates programVm (Pubkey.filled 20) := by
  intro pid' entry' hentry' _
  have hentries : programVm.programCache.entries =
      (∅ : Lib.HashMap Pubkey CacheEntry).insert (Pubkey.filled 20) programEntry := rfl
  have hlookup := hentry'.1
  rw [hentries, Lib.HashMap.lookup_insert_eq] at hlookup
  by_contra hne
  simp [show ¬ Pubkey.filled 20 = pid' from fun h => hne h.symm] at hlookup

end Reference

namespace QuasarSvm

theorem programdata_account_iff_reference :
    ShowsProgramdata Reference.loaderCrates Reference.programVm
      [Reference.instructionOn (Pubkey.filled 20) [Pubkey.filled 10]] [] (Pubkey.filled 20)
      Reference.programEntry := by
  refine ((programdata_account_iff Reference.programdataCrates_ok Reference.programVm
    [Reference.instructionOn (Pubkey.filled 20) [Pubkey.filled 10]] [] (Pubkey.filled 20)
    Reference.programEntry Reference.cachedV3_programVm Reference.ownAddress_programVm
    ?_ ?_).1).2 ⟨[], [], ?_, List.not_mem_nil⟩
  · decide
  · rintro (hstored | ⟨a, ha, -⟩)
    · cases hstored
    · cases ha
  · decide

/-- The program named for a CPI only, and the program with its account passed: both calls find the
default account under the programdata address. -/
theorem programdata_account_missing :
    ¬ ShowsProgramdata Reference.loaderCrates Reference.programVm
        [Reference.instructionOn (Pubkey.filled 30) [Pubkey.filled 20, Pubkey.filled 10]] []
        (Pubkey.filled 20) Reference.programEntry ∧
      ¬ ShowsProgramdata Reference.loaderCrates Reference.programVm
        [Reference.instructionOn (Pubkey.filled 20) [Pubkey.filled 10]]
        [Account.fromPair (Pubkey.filled 20) (programAccount Reference.loaderCrates
          (Pubkey.filled 20))] (Pubkey.filled 20) Reference.programEntry := by
  constructor
  · rintro ⟨a, ha, howner, -⟩
    have hdefault : (Reference.programVm.initialContext Reference.loaderCrates
        [Reference.instructionOn (Pubkey.filled 30) [Pubkey.filled 20, Pubkey.filled 10]]
        []).findAccount (Pubkey.filled 10) = some SolanaAccount.default := by
      decide
    cases hdefault.symm.trans ha
    exact Reference.programdataCrates_ok.default_ne_v3 howner
  · rintro ⟨a, ha, howner, -⟩
    have hdefault : (Reference.programVm.initialContext Reference.loaderCrates
        [Reference.instructionOn (Pubkey.filled 20) [Pubkey.filled 10]]
        [Account.fromPair (Pubkey.filled 20) (programAccount Reference.loaderCrates
          (Pubkey.filled 20))]).findAccount (Pubkey.filled 10) = some SolanaAccount.default := by
      decide
    cases hdefault.symm.trans ha
    exact Reference.programdataCrates_ok.default_ne_v3 howner

end QuasarSvm
end Svm
end Quasar
