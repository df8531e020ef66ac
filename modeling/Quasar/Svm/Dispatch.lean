import Quasar.Svm.Iteration
import Quasar.Svm.Programdata

/-!
# Dispatch — under which account a program of the cache runs

The runtime hands an instruction to the builtin that owns the program's account.  Two of the
builtins, the loaders v2 and v3, run what the cache has under the program's id; any other owner runs
something else, or nothing.  So it is the account which a call has under an id that decides whether
the program runs: the supplied one, if there is one, and else a fallback.
-/

namespace Quasar
namespace Svm
namespace QuasarSvm

open Lib

variable {cr : Crates} {svm : QuasarSvm} {ixs : List Instruction} {accounts : List Account}
  {id pid loader : Pubkey}

/-- The loaders differ from each other and from the owners of sysvar accounts, and a program's entry
is owned by the loader it was built for. -/
structure LoaderCrates (cr : Crates) : Prop where
  native_ne_v3 : cr.nativeLoaderId ≠ cr.loaderV3Id
  v2_ne_v3 : cr.loaderV2Id ≠ cr.loaderV3Id
  sdkSysvar_ne : cr.sdkSysvarId ≠ cr.loaderV2Id ∧ cr.sdkSysvarId ≠ cr.loaderV3Id
  sysvarOwner_ne : cr.sysvarOwnerId ≠ cr.loaderV2Id ∧ cr.sysvarOwnerId ≠ cr.loaderV3Id
  accountOwner_new : ∀ loader elf entry, cr.programCacheEntryNew loader elf = some entry →
    entry.accountOwner = loader

/-- The loaders whose programs have fallback accounts of their own.  A stub has the default
owner. -/
def KnownLoader (cr : Crates) (loader : Pubkey) : Prop :=
  loader = cr.nativeLoaderId ∨ loader = cr.loaderV2Id ∨ loader = cr.loaderV3Id ∨
    loader = Pubkey.default

/-- The cache has a builtin under the id. -/
def HasBuiltin (svm : QuasarSvm) (id : Pubkey) : Prop :=
  ∃ owner name, svm.programCache.loadProgram id =
    some { accountOwner := owner, program := .builtin name }

/-- A program whose account has this owner runs from the cache. -/
def RunsUnder (cr : Crates) (svm : QuasarSvm) (owner : Pubkey) : Prop :=
  (owner = cr.loaderV2Id ∨ owner = cr.loaderV3Id) ∧ HasBuiltin svm owner

/-- An instruction of the call names the id as its program. -/
def Invoked (ixs : List Instruction) (id : Pubkey) : Prop :=
  ∃ ix ∈ ixs, ix.programId = id

/-- The id is the programdata address of another program of the call that nobody supplied. -/
def Shadowed (cr : Crates) (svm : QuasarSvm) (ixs : List Instruction) (accounts : List Account)
    (id : Pubkey) : Prop :=
  ∃ pid ∈ missingIds svm ixs accounts, pid ≠ id ∧ programdataAddress cr pid = id ∧
    ∃ entry, CachedV3 cr svm pid entry

/-- Every account that the call may have under a program's id has an owner that runs it: the
supplied account, or else the fallbacks of the id. -/
structure LoaderOwned (cr : Crates) (svm : QuasarSvm) (id loader : Pubkey)
    (ixs : List Instruction) (accounts : List Account) : Prop where
  supplied : ∀ a, HashMap.firstOf id (svm.mergedAccounts accounts) = some a →
    RunsUnder cr svm a.owner
  notInstructions : ¬ Supplied svm accounts id → id ≠ cr.instructionsSysvarId
  invoked : ¬ Supplied svm accounts id → Invoked ixs id → RunsUnder cr svm loader
  shadowed : ¬ Supplied svm accounts id → Shadowed cr svm ixs accounts id →
    RunsUnder cr svm cr.loaderV3Id
  -- A program that is called by others only resolves behind the sysvars.
  called : ¬ Supplied svm accounts id → ¬ Invoked ixs id → ¬ Shadowed cr svm ixs accounts id →
    svm.sysvars.maybeCreateSysvarAccount cr id = none ∧ RunsUnder cr svm loader

/-! ## Owners of fallback accounts -/

/-- The accounts of a recorded program stand under its id and, for loader v3, under its programdata
address, and the loader owns them. -/
theorem owner_of_recorded {pc : ProgramCache} {entry : CacheEntry}
    (hentry : pc.entries.lookup pid = some entry) {p : Pubkey × SolanaAccount}
    (hp : p ∈ pc.maybeCreateProgramAccounts cr pid) :
    (KnownLoader cr entry.loaderKey → p.2.owner = entry.loaderKey) ∧
      (p.1 = pid ∨ entry.loaderKey = cr.loaderV3Id ∧ p.1 = programdataAddress cr pid) := by
  unfold ProgramCache.maybeCreateProgramAccounts at hp
  simp only [hentry] at hp
  split_ifs at hp with hnative hv2 hv3
  · cases List.mem_singleton.1 hp
    exact ⟨fun _ => hnative.symm, Or.inl rfl⟩
  · cases List.mem_singleton.1 hp
    exact ⟨fun _ => hv2.symm, Or.inl rfl⟩
  · rcases List.mem_pair.1 hp with rfl | rfl
    · exact ⟨fun _ => hv3.symm, Or.inl rfl⟩
    · exact ⟨fun _ => hv3.symm, Or.inr ⟨hv3, rfl⟩⟩
  · cases List.mem_singleton.1 hp
    refine ⟨?_, Or.inl rfl⟩
    rintro (h | h | h | h)
    · exact absurd h hnative
    · exact absurd h hv2
    · exact absurd h hv3
    · exact h.symm

theorem programFallbacks_recorded {entry : CacheEntry}
    (hentry : svm.programCache.entries.lookup pid = some entry) :
    svm.programFallbacks cr pid = svm.programCache.maybeCreateProgramAccounts cr pid := by
  unfold programFallbacks
  cases haccounts : svm.programCache.maybeCreateProgramAccounts cr pid with
  | nil =>
      unfold ProgramCache.maybeCreateProgramAccounts at haccounts
      simp only [hentry] at haccounts
      split_ifs at haccounts
  | cons p ps => rfl

/-- A fallback account of a recorded program under its own id. -/
theorem lastOf_programFallbacks_own {entry : CacheEntry}
    (hentry : svm.programCache.entries.lookup id = some entry)
    (hknown : KnownLoader cr entry.loaderKey) :
    ∃ a, HashMap.lastOf id (svm.programFallbacks cr id) = some a ∧ a.owner = entry.loaderKey := by
  have hkey : id ∈ (svm.programFallbacks cr id).map Prod.fst := by
    rcases keys_programFallbacks cr svm id with h | h <;> simp [h]
  rcases HashMap.exists_lastOf hkey with ⟨a, ha, hmem⟩
  rw [programFallbacks_recorded hentry] at hmem
  exact ⟨a, ha, (owner_of_recorded hentry hmem).1 hknown⟩

/-- A fallback account of another program under the id is a programdata account. -/
theorem shadowed_of_programFallbacks {a : SolanaAccount} (hpid : pid ∈ missingIds svm ixs accounts)
    (hne : pid ≠ id) (ha : HashMap.lastOf id (svm.programFallbacks cr pid) = some a) :
    Shadowed cr svm ixs accounts id ∧ a.owner = cr.loaderV3Id := by
  have hmem := HashMap.mem_of_lastOf ha
  cases hentry : svm.programCache.entries.lookup pid with
  | none =>
      have hstub : svm.programFallbacks cr pid =
          [(pid, { SolanaAccount.default with executable := true })] := by
        simp [programFallbacks, ProgramCache.maybeCreateProgramAccounts, hentry]
      rw [hstub] at hmem
      cases List.mem_singleton.1 hmem
      exact absurd rfl hne
  | some entry =>
      -- Behind its own account a program only has its programdata account.
      rw [programFallbacks_recorded hentry] at hmem
      rcases owner_of_recorded hentry hmem with ⟨howner, rfl | ⟨hv3, hdata⟩⟩
      · exact absurd rfl hne
      · refine ⟨⟨pid, hpid, hne, hdata.symm, entry, hentry, hv3⟩, ?_⟩
        exact (howner (Or.inr (Or.inr (Or.inl hv3)))).trans hv3

/-- A program that shadows the id has its programdata account there. -/
theorem exists_of_shadowed (hcr : LoaderCrates cr) (h : Shadowed cr svm ixs accounts id) :
    ∃ pid ∈ missingIds svm ixs accounts, ∃ a,
      HashMap.lastOf id (svm.programFallbacks cr pid) = some a ∧ a.owner = cr.loaderV3Id := by
  rcases h with ⟨pid, hpid, hne, hdata, entry, hentry, hv3⟩
  have hkey : id ∈ (svm.programFallbacks cr pid).map Prod.fst := by
    rw [programFallbacks_recorded hentry, ProgramCache.maybeCreateProgramAccounts]
    simp only [hentry, hv3, hcr.native_ne_v3.symm, hcr.v2_ne_v3.symm, if_false, if_true]
    simp [← hdata, programdataAddress]
  rcases HashMap.exists_lastOf hkey with ⟨a, ha, _⟩
  exact ⟨pid, hpid, a, ha, (shadowed_of_programFallbacks hpid hne ha).2⟩

/-! ## The account of a call -/

theorem mem_missingIds_of_invoked (hnot : ¬ Supplied svm accounts id) (h : Invoked ixs id) :
    id ∈ missingIds svm ixs accounts :=
  mem_missingIds_iff.2 ⟨h, hnot⟩

/-- The sysvars are not programs. -/
theorem not_runsUnder_sysvar (hcr : LoaderCrates cr) {a : SolanaAccount}
    (ha : svm.sysvars.maybeCreateSysvarAccount cr id = some a) : ¬ RunsUnder cr svm a.owner := by
  rcases Option.map_eq_some_iff.1 ha with ⟨s, _, rfl⟩
  rintro ⟨h | h, _⟩
  · exact hcr.sdkSysvar_ne.1 h
  · exact hcr.sdkSysvar_ne.2 h

theorem not_runsUnder_instructionsSysvar (hcr : LoaderCrates cr) :
    ¬ RunsUnder cr svm (buildInstructionsSysvar cr ixs).2.owner := by
  rintro ⟨h | h, _⟩
  · exact hcr.sysvarOwner_ne.1 h
  · exact hcr.sysvarOwner_ne.2 h

/-- What a call has under the id, whatever order it draws, has an owner that runs the program. -/
def RunsInCall (cr : Crates) (svm : QuasarSvm) (id : Pubkey) (ixs : List Instruction)
    (accounts : List Account) : Prop :=
  ∀ order : SetOrder, ∃ a,
    (svm.initialContext (cr.withOrder order.iter) ixs accounts).findAccount id = some a ∧
      RunsUnder cr svm a.owner

/-- The account that a call has under an id of its message that nobody supplied. -/
theorem findAccount_of_not_supplied (hkey : id ∈ (cr.messageNew ixs).accountKeys)
    (hnot : ¬ Supplied svm accounts id) (hne : id ≠ cr.instructionsSysvarId) (order : SetOrder) :
    (svm.initialContext (cr.withOrder order.iter) ixs accounts).findAccount id =
      some (((HashMap.lastOf id (fallbackPairs (cr.withOrder order.iter) svm ixs accounts)).or
        ((svm.sysvars.maybeCreateSysvarAccount cr id).or
          (HashMap.firstOf id (svm.programCache.maybeCreateProgramAccounts cr id)))).getD
        SolanaAccount.default) := by
  rw [findAccount_withOrder hkey, resolved_of_not_supplied hnot, lookup_fallbackPairs_withOrder hne]
  rfl

/-- A fallback that the call may have under the id is the program's own or shadows it. -/
theorem fallback_cases {order : SetOrder} {a : SolanaAccount}
    (ha : HashMap.lastOf id (fallbackPairs (cr.withOrder order.iter) svm ixs accounts) = some a) :
    (id ∈ missingIds svm ixs accounts ∧ HashMap.lastOf id (svm.programFallbacks cr id) = some a) ∨
      (Shadowed cr svm ixs accounts id ∧ a.owner = cr.loaderV3Id) := by
  rcases HashMap.exists_lastOf_of_flatMap ha with ⟨pid, hpid, hlast⟩
  have hmissing := (mem_missingPrograms_withOrder order.isSetOrder).1 hpid
  -- The program whose accounts were inserted last under the id decides.
  by_cases hself : pid = id
  · subst hself
    exact Or.inl ⟨hmissing, hlast⟩
  · exact Or.inr (shadowed_of_programFallbacks hmissing hself hlast)

/-- An id that some program of the call has an account for has a fallback. -/
theorem fallback_ne_none {order : SetOrder} {a : SolanaAccount}
    (hpid : pid ∈ missingIds svm ixs accounts)
    (ha : HashMap.lastOf id (svm.programFallbacks cr pid) = some a) :
    HashMap.lastOf id (fallbackPairs (cr.withOrder order.iter) svm ixs accounts) ≠ none := by
  intro hnone
  refine HashMap.lastOf_eq_none_iff.1 hnone (List.mem_map.2 ⟨(id, a), ?_, rfl⟩)
  exact List.mem_flatMap.2 ⟨pid, (mem_missingPrograms_withOrder order.isSetOrder).2 hpid,
    HashMap.mem_of_lastOf ha⟩

/-- An id that no program of the call has an account for has no fallback. -/
theorem fallback_eq_none {order : SetOrder} (hinvoked : ¬ Invoked ixs id)
    (hshadowed : ¬ Shadowed cr svm ixs accounts id) :
    HashMap.lastOf id (fallbackPairs (cr.withOrder order.iter) svm ixs accounts) = none := by
  cases ha : HashMap.lastOf id (fallbackPairs (cr.withOrder order.iter) svm ixs accounts) with
  | none => rfl
  | some a =>
      rcases fallback_cases ha with ⟨hmissing, _⟩ | ⟨h, _⟩
      · exact absurd (mem_missingIds_iff.1 hmissing).1 hinvoked
      · exact absurd h hshadowed

/-- A recorded program is the last fallback of its own id. -/
theorem firstOf_maybeCreate_recorded {entry : CacheEntry}
    (hentry : svm.programCache.entries.lookup id = some entry)
    (hknown : KnownLoader cr entry.loaderKey) :
    ∃ a, HashMap.firstOf id (svm.programCache.maybeCreateProgramAccounts cr id) = some a ∧
      a.owner = entry.loaderKey := by
  rcases lastOf_programFallbacks_own hentry hknown with ⟨b, hb, _⟩
  have hkey : id ∈ (svm.programCache.maybeCreateProgramAccounts cr id).map Prod.fst := by
    rw [← programFallbacks_recorded hentry]
    exact List.mem_map.2 ⟨(id, b), HashMap.mem_of_lastOf hb, rfl⟩
  rcases Option.isSome_iff_exists.1 (HashMap.isSome_firstOf_iff.2 hkey) with ⟨a, ha⟩
  exact ⟨a, ha, (owner_of_recorded hentry (HashMap.mem_of_firstOf ha)).1 hknown⟩

section RunsInCall

variable {entry : CacheEntry} (hcr : LoaderCrates cr)
  (hentry : svm.programCache.entries.lookup id = some entry)
  (hknown : KnownLoader cr entry.loaderKey) (hkey : id ∈ (cr.messageNew ixs).accountKeys)

/-- A supplied account is the one that the call has, under every order. -/
theorem runsInCall_of_supplied {a : SolanaAccount} (hkey : id ∈ (cr.messageNew ixs).accountKeys)
    (ha : HashMap.firstOf id (svm.mergedAccounts accounts) = some a) :
    RunsInCall cr svm id ixs accounts ↔ RunsUnder cr svm a.owner := by
  have hfound : ∀ order : SetOrder,
      (svm.initialContext (cr.withOrder order.iter) ixs accounts).findAccount id = some a := by
    intro order
    rw [findAccount_withOrder hkey, resolved_of_supplied ha]
  constructor
  · intro h
    rcases h SetOrder.dedup with ⟨b, hb, hruns⟩
    cases (hfound SetOrder.dedup).symm.trans hb
    exact hruns
  · intro h order
    exact ⟨a, hfound order, h⟩

include hcr hkey

/-- Nothing runs the account that the engine builds for the instructions sysvar. -/
theorem ne_instructionsSysvar_of_runsInCall (hnot : ¬ Supplied svm accounts id)
    (h : RunsInCall cr svm id ixs accounts) : id ≠ cr.instructionsSysvarId := by
  rintro rfl
  rcases h SetOrder.dedup with ⟨a, ha, hruns⟩
  -- The engine inserts this account behind all fallbacks.
  rw [findAccount_withOrder hkey, resolved_of_not_supplied hnot, lookup_sysvar_withOrder hnot] at ha
  cases ha
  exact not_runsUnder_instructionsSysvar hcr hruns

include hentry hknown

/-- Where nothing was supplied, each fallback that some order puts under the id has to run it. -/
theorem loaderOwned_of_runsInCall (h : RunsInCall cr svm id ixs accounts) :
    LoaderOwned cr svm id entry.loaderKey ixs accounts := by
  have hne : ¬ Supplied svm accounts id → id ≠ cr.instructionsSysvarId :=
    fun hnot => ne_instructionsSysvar_of_runsInCall hcr hkey hnot h
  refine ⟨fun a ha => (runsInCall_of_supplied hkey ha).1 h, hne, ?_, ?_, ?_⟩
  · -- Under the order that lists the id last, its own fallback stands there.
    intro hnot hinvoked
    rcases lastOf_programFallbacks_own hentry hknown with ⟨a, ha, howner⟩
    rcases h ⟨orderLast id, isSetOrder_orderLast id⟩ with ⟨b, hb, hruns⟩
    cases (findAccount_orderLast hkey (hne hnot) hnot (mem_missingIds_of_invoked hnot hinvoked)
      ha).symm.trans hb
    exact howner ▸ hruns
  · -- Under the order that lists the shadowing program last, its programdata account does.
    intro hnot hshadowed
    rcases exists_of_shadowed hcr hshadowed with ⟨pid, hpid, a, ha, howner⟩
    rcases h ⟨orderLast pid, isSetOrder_orderLast pid⟩ with ⟨b, hb, hruns⟩
    cases (findAccount_orderLast hkey (hne hnot) hnot hpid ha).symm.trans hb
    exact howner ▸ hruns
  · -- No order puts a fallback there, so the late lookup decides.
    intro hnot hinvoked hshadowed
    rcases h SetOrder.dedup with ⟨b, hb, hruns⟩
    rw [findAccount_of_not_supplied hkey hnot (hne hnot), fallback_eq_none hinvoked hshadowed,
      Option.none_or] at hb
    cases hsysvar : svm.sysvars.maybeCreateSysvarAccount cr id with
    | some a =>
        rw [hsysvar] at hb
        cases hb
        exact absurd hruns (not_runsUnder_sysvar hcr hsysvar)
    | none =>
        rcases firstOf_maybeCreate_recorded hentry hknown with ⟨a, ha, howner⟩
        rw [hsysvar, ha] at hb
        cases hb
        exact ⟨rfl, howner ▸ hruns⟩

theorem runsInCall_of_loaderOwned (h : LoaderOwned cr svm id entry.loaderKey ixs accounts) :
    RunsInCall cr svm id ixs accounts := by
  cases hmerged : HashMap.firstOf id (svm.mergedAccounts accounts) with
  | some a => exact (runsInCall_of_supplied hkey hmerged).2 (h.supplied a hmerged)
  | none =>
      have hnot := firstOf_mergedAccounts_eq_none_iff.1 hmerged
      intro order
      rw [findAccount_of_not_supplied hkey hnot (h.notInstructions hnot)]
      refine ⟨_, rfl, ?_⟩
      cases ha : HashMap.lastOf id (fallbackPairs (cr.withOrder order.iter) svm ixs accounts) with
      | some a =>
          rcases fallback_cases ha with ⟨hmissing, hself⟩ | ⟨hshadowed, howner⟩
          · rcases lastOf_programFallbacks_own hentry hknown with ⟨b, hb, howner⟩
            cases hself.symm.trans hb
            exact howner ▸ h.invoked hnot (mem_missingIds_iff.1 hmissing).1
          · exact howner ▸ h.shadowed hnot hshadowed
      | none =>
          -- Neither the program itself nor one that shadows it is among the fallbacks.
          have hinvoked : ¬ Invoked ixs id := by
            intro hinvoked
            rcases lastOf_programFallbacks_own hentry hknown with ⟨b, hb, _⟩
            exact fallback_ne_none (mem_missingIds_of_invoked hnot hinvoked) hb ha
          have hshadowed : ¬ Shadowed cr svm ixs accounts id := by
            intro hshadowed
            rcases exists_of_shadowed hcr hshadowed with ⟨pid, hpid, b, hb, _⟩
            exact fallback_ne_none hpid hb ha
          rcases firstOf_maybeCreate_recorded hentry hknown with ⟨b, hb, howner⟩
          rcases h.called hnot hinvoked hshadowed with ⟨hsysvar, hruns⟩
          rw [hsysvar, hb]
          exact howner ▸ hruns

/-- The call runs the recorded program exactly when a loader owns each account that it may have
under the id. -/
theorem runsInCall_iff :
    RunsInCall cr svm id ixs accounts ↔ LoaderOwned cr svm id entry.loaderKey ixs accounts :=
  ⟨loaderOwned_of_runsInCall hcr hentry hknown hkey,
    runsInCall_of_loaderOwned hcr hentry hknown hkey⟩

end RunsInCall

end QuasarSvm
end Svm
end Quasar
