import Quasar.Svm.StoreHistory

/-!
# SysvarViews — the two ways in which a program sees a sysvar

A syscall reads the sysvar cache, an instruction reads the account that the message names.  Both
take what was supplied under the sysvar's id, and both fall back to the engine's own value; so they
agree, and a supplied account hides every value that is set later.
-/

namespace Quasar
namespace Svm

open Lib

/-! ## What the crates promise -/

/-- The ids of the sysvars and the codec of their values: the ids are distinct from each other, from
the instructions sysvar and from program-derived addresses, and what is serialized decodes. -/
structure SysvarCrates (cr : Crates) : Prop where
  set_order : QuasarSvm.IsSetOrder cr.hashSetIter
  id_injective : Function.Injective cr.sysvarId
  id_ne_instructions : ∀ s, cr.sysvarId s ≠ cr.instructionsSysvarId
  programdata_ne_id : ∀ pid s, QuasarSvm.programdataAddress cr pid ≠ cr.sysvarId s
  decodes_serialize : ∀ (sv : Sysvars) (s : Sysvar),
    cr.sysvarDecodes s (cr.serializeSysvar (sv.get s)) = true

namespace Reference

theorem isSetOrder_dedup : QuasarSvm.IsSetOrder fun keys => keys.dedup :=
  fun l => ⟨List.nodup_dedup l, fun _ => List.mem_dedup⟩

theorem sysvarId_injective : Function.Injective sysvarId := by
  intro s s' h
  have hall : ∀ s ∈ Sysvar.all, ∀ s' ∈ Sysvar.all, sysvarId s = sysvarId s' → s = s' := by
    decide
  refine hall s ?_ s' ?_ h
  · cases s with
    | _ => simp [Sysvar.all]
  · cases s' with
    | _ => simp [Sysvar.all]

theorem sysvarCrates_ok : SysvarCrates sysvarCrates :=
  { set_order := isSetOrder_dedup
    id_injective := sysvarId_injective
    id_ne_instructions := by
      intro s
      cases s with
      | _ => decide
    programdata_ne_id := by
      intro pid s
      change Pubkey.filled 234 ≠ sysvarId s
      cases s with
      | _ => decide
    decodes_serialize := sysvarDecodes_serializeSysvar }

theorem messageKeys_ok : QuasarSvm.MessageKeys sysvarCrates :=
  { mem_iff := fun _ _ => mem_accountKeys_iff
    nodup := nodup_accountKeys }

end Reference

namespace QuasarSvm

variable {cr : Crates} {rt : Runtime} {svm : QuasarSvm} {ixs : List Instruction}
  {accounts : List Account} {s : Sysvar}

/-- The engine's own value of a sysvar. -/
def ownData (cr : Crates) (svm : QuasarSvm) (s : Sysvar) : Bytes :=
  cr.serializeSysvar (svm.sysvars.get s)

/-- The bytes that the syscalls of a call read. -/
def cachedData (cr : Crates) (svm : QuasarSvm) (accounts : List Account) (s : Sysvar) :
    Option Bytes :=
  svm.sysvars.setupSysvarCache cr (svm.mergedAccounts accounts) s

/-- The bytes of the sysvar's account in the transaction of a call. -/
def accountData (cr : Crates) (svm : QuasarSvm) (ixs : List Instruction) (accounts : List Account)
    (s : Sysvar) : Option Bytes :=
  ((svm.initialContext cr ixs accounts).findAccount (cr.sysvarId s)).map SolanaAccount.data

theorem decodes_ownData (hcr : SysvarCrates cr) (svm : QuasarSvm) (s : Sysvar) :
    cr.sysvarDecodes s (ownData cr svm s) = true :=
  hcr.decodes_serialize svm.sysvars s

/-! ## The views -/

/-- Each id leads to its own sysvar. -/
theorem find_all (hcr : SysvarCrates cr) (s : Sysvar) :
    (Sysvar.all.find? fun s' => cr.sysvarId s = cr.sysvarId s') = some s := by
  have hsame : ∀ s', decide (cr.sysvarId s = cr.sysvarId s') = decide (s' = s) := by
    intro s'
    simp [hcr.id_injective.eq_iff, eq_comm]
  simp only [hsame]
  cases s with
  | _ => rfl

theorem maybeCreateSysvarAccount_id (hcr : SysvarCrates cr) (sv : Sysvars) (s : Sysvar) :
    sv.maybeCreateSysvarAccount cr (cr.sysvarId s) = some (sv.sysvarAccount cr (sv.get s)) := by
  rw [Sysvars.maybeCreateSysvarAccount, find_all hcr, Option.map_some]

/-- The syscalls read what is merged under the id when it decodes, and else the engine's value. -/
theorem cachedData_eq (hcr : SysvarCrates cr) (svm : QuasarSvm) (accounts : List Account)
    (s : Sysvar) :
    cachedData cr svm accounts s =
      some ((((HashMap.firstOf (cr.sysvarId s) (svm.mergedAccounts accounts)).map
        SolanaAccount.data).filter (cr.sysvarDecodes s)).getD (ownData cr svm s)) := by
  rw [cachedData, setupSysvarCache_apply, find_all hcr, Option.map_some, ← ownData,
    Option.filter_some, if_pos (decodes_ownData hcr svm s)]
  cases ((HashMap.firstOf (cr.sysvarId s) (svm.mergedAccounts accounts)).map
      SolanaAccount.data).filter (cr.sysvarDecodes s) with
  | none => rfl
  | some data => rfl

/-- A named sysvar that was supplied is the supplied account. -/
theorem accountData_of_supplied {a : SolanaAccount}
    (hnamed : cr.sysvarId s ∈ (cr.messageNew ixs).accountKeys)
    (h : HashMap.firstOf (cr.sysvarId s) (svm.mergedAccounts accounts) = some a) :
    accountData cr svm ixs accounts s = some a.data := by
  rw [accountData, findAccount_of_mem_keys hnamed, resolved_of_supplied h, Option.map_some]

/-- A named sysvar that was not supplied holds the engine's value, unless a program's fallback
account stands under its id. -/
theorem accountData_of_not_supplied (hcr : SysvarCrates cr)
    (hnamed : cr.sysvarId s ∈ (cr.messageNew ixs).accountKeys)
    (h : ¬ Supplied svm accounts (cr.sysvarId s)) :
    accountData cr svm ixs accounts s =
      some (((HashMap.lastOf (cr.sysvarId s) (fallbackPairs cr svm ixs accounts)).map
        SolanaAccount.data).getD (ownData cr svm s)) := by
  rw [accountData, findAccount_of_mem_keys hnamed, resolved_of_not_supplied h,
    lookup_fallbacks_of_ne (hcr.id_ne_instructions s), maybeCreateSysvarAccount_id hcr]
  cases HashMap.lastOf (cr.sysvarId s) (fallbackPairs cr svm ixs accounts) with
  | none => rfl
  | some a => rfl

/-- The id is not among the call's programs. -/
def NotRun (ixs : List Instruction) (k : Pubkey) : Prop :=
  ∀ ix ∈ ixs, ix.programId ≠ k

instance (ixs : List Instruction) (k : Pubkey) : Decidable (NotRun ixs k) :=
  inferInstanceAs (Decidable (∀ ix ∈ ixs, ix.programId ≠ k))

theorem lastOf_fallbackPairs_id (hcr : SysvarCrates cr) (h : NotRun ixs (cr.sysvarId s)) :
    HashMap.lastOf (cr.sysvarId s) (fallbackPairs cr svm ixs accounts) = none :=
  lastOf_fallbackPairs_eq_none hcr.set_order
    fun ix hix => ⟨h ix hix, hcr.programdata_ne_id ix.programId s⟩

/-- The syscalls and the transaction's account show one value of a sysvar that the message names and
does not run, when what was supplied under its id decodes. -/
theorem views_agree (cr : Crates) (hcr : SysvarCrates cr) (svm : QuasarSvm)
    (ixs : List Instruction) (accounts : List Account) (s : Sysvar)
    (hnamed : cr.sysvarId s ∈ (cr.messageNew ixs).accountKeys)
    (hrun : NotRun ixs (cr.sysvarId s))
    (hstored : ∀ a, svm.accounts.lookup (cr.sysvarId s) = some a →
      cr.sysvarDecodes s a.data = true)
    (hexplicit : ∀ a ∈ accounts, a.address = cr.sysvarId s → cr.sysvarDecodes s a.data = true) :
    ∃ data, cachedData cr svm accounts s = some data ∧
      accountData cr svm ixs accounts s = some data := by
  rw [cachedData_eq hcr]
  cases hfirst : HashMap.firstOf (cr.sysvarId s) (svm.mergedAccounts accounts) with
  | none =>
      -- Nobody supplied the sysvar: both views fall back to the engine's value.
      have hnot := firstOf_mergedAccounts_eq_none_iff.1 hfirst
      refine ⟨ownData cr svm s, rfl, ?_⟩
      rw [accountData_of_not_supplied hcr hnamed hnot, lastOf_fallbackPairs_id hcr hrun]
      rfl
  | some a =>
      have hdecodes : cr.sysvarDecodes s a.data = true := by
        rw [firstOf_mergedAccounts] at hfirst
        rcases Option.or_eq_some_iff.1 hfirst with hpassed | ⟨_, hlookup⟩
        · rcases List.mem_map.1 (HashMap.mem_of_firstOf hpassed) with ⟨b, hb, hpair⟩
          have hdata : b.data = a.data := congrArg (fun p => p.2.data) hpair
          rw [← hdata]
          exact hexplicit b hb (congrArg Prod.fst hpair)
        · exact hstored a hlookup
      refine ⟨a.data, ?_, accountData_of_supplied hnamed hfirst⟩
      rw [Option.map_some, Option.filter_some, if_pos hdecodes, Option.getD_some]

/-- A program reads the clock. -/
def clockCall : List Instruction :=
  [Reference.instructionOn (Pubkey.filled 9) [Pubkey.filled 240]]

/-- The clock of another slot, as a caller may pass it. -/
def clockAccount (slot : UInt64) : Account :=
  Account.fromPair (Pubkey.filled 240)
    { SolanaAccount.default with
      data := Reference.serializeSysvar (.clock ⟨slot, 0, 0, 0, 0⟩) }

/-- Both views show a clock that is passed. -/
theorem views_agree_passed :
    ∃ data, cachedData Reference.sysvarCrates Reference.emptyVm [clockAccount 3] .clock =
        some data ∧
      accountData Reference.sysvarCrates Reference.emptyVm clockCall [clockAccount 3] .clock =
        some data := by
  refine views_agree Reference.sysvarCrates Reference.sysvarCrates_ok Reference.emptyVm clockCall
    [clockAccount 3] .clock (by decide) (by decide) ?_ ?_
  · intro a ha
    cases ha
  · decide

/-! ## Setters -/

/-- The setters of the clock and of the rent. -/
inductive Setter
  | warpToSlot (slot : UInt64)
  | setClock (clock : Clock)
  | setRent (rent : Rent)

namespace Setter

/-- The sysvar that the setter sets. -/
def sysvar : Setter → Sysvar
  | .warpToSlot _ => .clock
  | .setClock _ => .clock
  | .setRent _ => .rent

def apply (cr : Crates) (svm : QuasarSvm) : Setter → QuasarSvm
  | .warpToSlot slot => { svm with sysvars := svm.sysvars.warpToSlot cr slot }
  | .setClock clock => { svm with sysvars := { svm.sysvars with clock := clock } }
  | .setRent rent => { svm with sysvars := { svm.sysvars with rent := rent } }

/-- The value that the setter sets. -/
def value (cr : Crates) (svm : QuasarSvm) : Setter → SysvarValue
  | .warpToSlot slot =>
      .clock
        { slot := slot
          epochStartTimestamp := 0
          epoch := cr.getEpoch svm.sysvars.epochSchedule slot
          leaderScheduleEpoch := cr.getLeaderScheduleEpoch svm.sysvars.epochSchedule slot
          unixTimestamp := 0 }
  | .setClock clock => .clock clock
  | .setRent rent => .rent rent

theorem get_apply (setter : Setter) :
    (setter.apply cr svm).sysvars.get setter.sysvar = setter.value cr svm := by
  cases setter with
  | _ => rfl

theorem ownData_apply (setter : Setter) :
    ownData cr (setter.apply cr svm) setter.sysvar = cr.serializeSysvar (setter.value cr svm) :=
  congrArg cr.serializeSysvar setter.get_apply

/-- A setter changes the sysvars only. -/
theorem accounts_apply (setter : Setter) : (setter.apply cr svm).accounts = svm.accounts := by
  cases setter with
  | _ => rfl

end Setter

/-- The call shows its programs the engine's own value of the sysvar, in the sysvar cache and, if the
message names it, in its account. -/
def Shows (cr : Crates) (svm : QuasarSvm) (ixs : List Instruction) (accounts : List Account)
    (s : Sysvar) : Prop :=
  cachedData cr svm accounts s = some (ownData cr svm s) ∧
    (cr.sysvarId s ∈ (cr.messageNew ixs).accountKeys →
      accountData cr svm ixs accounts s = some (ownData cr svm s))

/-- Nothing else stands in front of the engine's own value: a stored account holds the same bytes,
or bytes that do not decode while the message does not name it; and where none is stored, neither
does a program's fallback account. -/
def Unshadowed (cr : Crates) (svm : QuasarSvm) (ixs : List Instruction) (accounts : List Account)
    (s : Sysvar) : Prop :=
  match svm.accounts.lookup (cr.sysvarId s) with
  | some a =>
      a.data = ownData cr svm s ∨
        (cr.sysvarDecodes s a.data = false ∧ cr.sysvarId s ∉ (cr.messageNew ixs).accountKeys)
  | none =>
      cr.sysvarId s ∈ (cr.messageNew ixs).accountKeys →
        ∀ a, HashMap.lastOf (cr.sysvarId s) (fallbackPairs cr svm ixs accounts) = some a →
          a.data = ownData cr svm s

/-- A call that does not pass the sysvar shows the engine's value exactly when nothing stands in
front of it. -/
theorem shows_iff (hcr : SysvarCrates cr) (h : NotPassed accounts (cr.sysvarId s)) :
    Shows cr svm ixs accounts s ↔ Unshadowed cr svm ixs accounts s := by
  have hfirst := firstOf_mergedAccounts_of_notPassed svm h
  unfold Shows Unshadowed
  rw [cachedData_eq hcr]
  cases hlookup : svm.accounts.lookup (cr.sysvarId s) with
  | none =>
      rw [hlookup] at hfirst
      have hnot := firstOf_mergedAccounts_eq_none_iff.1 hfirst
      simp only [hfirst, Option.map_none, Option.filter_none, Option.getD_none, true_and]
      refine forall_congr' fun hnamed => ?_
      rw [accountData_of_not_supplied hcr hnamed hnot]
      cases HashMap.lastOf (cr.sysvarId s) (fallbackPairs cr svm ixs accounts) with
      | none => simp
      | some a => simp
  | some a =>
      rw [hlookup] at hfirst
      simp only [hfirst, Option.map_some, Option.filter_some]
      by_cases hnamed : cr.sysvarId s ∈ (cr.messageNew ixs).accountKeys
      · -- The account shows what is stored, so the stored bytes must be the engine's.
        rw [accountData_of_supplied hnamed hfirst]
        simp only [hnamed, forall_true_left, not_true_eq_false, and_false, or_false,
          Option.some.injEq]
        refine ⟨And.right, fun hdata => ⟨?_, hdata⟩⟩
        rw [hdata, if_pos (decodes_ownData hcr svm s), Option.getD_some]
      · -- Only the syscalls see it, and they skip what does not decode.
        simp only [hnamed, false_imp_iff, and_true, not_false_eq_true]
        cases hdecodes : cr.sysvarDecodes s a.data with
        | true => simp
        | false => simp

theorem unshadowed_of_not_stored (hcr : SysvarCrates cr)
    (hnone : svm.accounts.lookup (cr.sysvarId s) = none) (hrun : NotRun ixs (cr.sysvarId s)) :
    Unshadowed cr svm ixs accounts s := by
  simp only [Unshadowed, hnone, lastOf_fallbackPairs_id hcr hrun]
  intro _ a ha
  cases ha

/-- The value just set is what the programs of the next call see. -/
def TakesEffect (cr : Crates) (svm : QuasarSvm) (setter : Setter) (ixs : List Instruction)
    (accounts : List Account) : Prop :=
  cachedData cr (setter.apply cr svm) accounts setter.sysvar =
      some (cr.serializeSysvar (setter.value cr svm)) ∧
    (cr.sysvarId setter.sysvar ∈ (cr.messageNew ixs).accountKeys →
      accountData cr (setter.apply cr svm) ixs accounts setter.sysvar =
        some (cr.serializeSysvar (setter.value cr svm)))

theorem takesEffect_iff (hcr : SysvarCrates cr) (setter : Setter)
    (h : NotPassed accounts (cr.sysvarId setter.sysvar)) :
    TakesEffect cr svm setter ixs accounts ↔
      Unshadowed cr (setter.apply cr svm) ixs accounts setter.sysvar := by
  rw [← shows_iff hcr h, TakesEffect, ← setter.ownData_apply]
  rfl

/-- Two setters of the clock, or of the rent, that set different values. -/
theorem exists_setters (s : Sysvar) (hs : s = .clock ∨ s = .rent) :
    ∃ setter setter' : Setter, setter.sysvar = s ∧ setter'.sysvar = s ∧
      ∀ cr svm, setter.value cr svm ≠ setter'.value cr svm := by
  rcases hs with rfl | rfl
  · refine ⟨.setClock ⟨0, 0, 0, 0, 0⟩, .setClock ⟨1, 0, 0, 0, 0⟩, rfl, rfl, ?_⟩
    intro cr svm
    simp [Setter.value]
  · refine ⟨.setRent ⟨0, 0, 0⟩, .setRent ⟨1, 0, 0⟩, rfl, rfl, ?_⟩
    intro cr svm
    simp [Setter.value]

/-- An account that is stored under the id and shows what a setter sets holds its very bytes, if the
message names the id. -/
theorem data_eq_of_takesEffect (hcr : SysvarCrates cr) (setter : Setter) {a : SolanaAccount}
    (hlookup : svm.accounts.lookup (cr.sysvarId setter.sysvar) = some a)
    (hnamed : cr.sysvarId setter.sysvar ∈ (cr.messageNew ixs).accountKeys)
    (hpassed : NotPassed accounts (cr.sysvarId setter.sysvar))
    (h : TakesEffect cr svm setter ixs accounts) :
    a.data = cr.serializeSysvar (setter.value cr svm) := by
  have hstands := (takesEffect_iff hcr setter hpassed).1 h
  rw [Unshadowed, setter.accounts_apply, hlookup] at hstands
  rcases hstands with hdata | ⟨_, hunnamed⟩
  · exact hdata.trans setter.ownData_apply
  · exact absurd hnamed hunnamed

/-- Where every setter takes effect no account is stored under the id: it would hold the bytes of
two values. -/
theorem not_stored_of_takesEffect (hcr : SysvarCrates cr) (hkeys : MessageKeys cr)
    (hs : s = .clock ∨ s = .rent)
    (hserialize : ∀ sv sv' : Sysvars,
      cr.serializeSysvar (sv.get s) = cr.serializeSysvar (sv'.get s) → sv.get s = sv'.get s)
    (h : ∀ setter : Setter, setter.sysvar = s → ∀ ixs accounts,
      NotPassed accounts (cr.sysvarId s) → NotRun ixs (cr.sysvarId s) →
        TakesEffect cr svm setter ixs accounts) :
    svm.accounts.lookup (cr.sysvarId s) = none := by
  cases hlookup : svm.accounts.lookup (cr.sysvarId s) with
  | none => rfl
  | some a =>
      -- The call runs some other program and names the id.
      let naming := Reference.instructionOn cr.instructionsSysvarId [cr.sysvarId s]
      have hnamed : cr.sysvarId s ∈ (cr.messageNew [naming]).accountKeys :=
        (hkeys.mem_iff _ _).2 ⟨naming, by simp, Or.inr ⟨_, List.mem_singleton.2 rfl, rfl⟩⟩
      have hpassed : NotPassed [] (cr.sysvarId s) := by simp [NotPassed]
      have hrun : NotRun [naming] (cr.sysvarId s) := by
        intro ix hix
        rcases List.mem_singleton.1 hix with rfl
        exact fun heq => hcr.id_ne_instructions s heq.symm
      have hdata : ∀ setter : Setter, setter.sysvar = s →
          a.data = cr.serializeSysvar (setter.value cr svm) := by
        rintro setter rfl
        exact data_eq_of_takesEffect hcr setter hlookup hnamed hpassed
          (h setter rfl [naming] [] hpassed hrun)
      rcases exists_setters s hs with ⟨setter, setter', rfl, hset, hne⟩
      have hsame := (hdata setter rfl).symm.trans (hdata setter' hset)
      rw [← setter.get_apply, ← setter'.get_apply, hset] at hsame
      have hvalue := hserialize _ _ hsame
      rw [setter.get_apply, ← hset, setter'.get_apply] at hvalue
      exact absurd hvalue (hne cr svm)

/-- After a history each setter takes effect exactly when nothing stands in front of its value, and
every setter of the clock, or of the rent, takes effect on every call that neither passes nor runs
its id exactly when no step stored an account under that id. -/
theorem setters_take_effect_iff (cr : Crates) (rt : Runtime) (hcr : SysvarCrates cr)
    (hkeys : MessageKeys cr)
    (s : Sysvar) (hs : s = .clock ∨ s = .rent)
    (hserialize : ∀ sv sv' : Sysvars,
      cr.serializeSysvar (sv.get s) = cr.serializeSysvar (sv'.get s) → sv.get s = sv'.get s)
    (svm : QuasarSvm)
    (hnew : svm.accounts.lookup (cr.sysvarId s) = none) (ops : List Operation) :
    (∀ setter : Setter, setter.sysvar = s → ∀ ixs accounts, NotPassed accounts (cr.sysvarId s) →
      (TakesEffect cr (svm.after cr rt ops) setter ixs accounts ↔
        Unshadowed cr (setter.apply cr (svm.after cr rt ops)) ixs accounts s)) ∧
      ((∀ setter : Setter, setter.sysvar = s → ∀ ixs accounts,
        NotPassed accounts (cr.sysvarId s) → NotRun ixs (cr.sysvarId s) →
          TakesEffect cr (svm.after cr rt ops) setter ixs accounts) ↔
        NeverStores cr rt svm ops (cr.sysvarId s)) := by
  refine ⟨?_, ?_⟩
  · rintro setter rfl ixs accounts hpassed
    exact takesEffect_iff hcr setter hpassed
  · rw [← lookup_after_eq_none_iff hnew]
    constructor
    · exact not_stored_of_takesEffect hcr hkeys hs hserialize
    · rintro hnone setter rfl ixs accounts hpassed hrun
      refine (takesEffect_iff hcr setter hpassed).2 (unshadowed_of_not_stored hcr ?_ hrun)
      rw [setter.accounts_apply]
      exact hnone

/-- After a call that passes another account, setting the clock takes effect. -/
theorem setters_take_effect_iff_plain :
    TakesEffect Reference.sysvarCrates
      (Reference.emptyVm.after Reference.sysvarCrates Reference.idleRuntime
        [.execute clockCall [Account.fromPair (Pubkey.filled 1) SolanaAccount.default] true,
          .warpToSlot 3])
      (.setClock ⟨7, 0, 0, 0, 0⟩) clockCall [] := by
  refine (setters_take_effect_iff Reference.sysvarCrates Reference.idleRuntime
    Reference.sysvarCrates_ok Reference.messageKeys_ok .clock (Or.inl rfl) ?_ Reference.emptyVm rfl
    _).2.2 (neverStores_of_not_mem (by decide)) _ rfl clockCall [] (by decide) (by decide)
  intro sv sv' h
  exact congrArg SysvarValue.clock (Reference.serializeSysvar_clock_injective h)

/-- A clock that was passed once to a call that succeeded stays in front of every clock that is set
later. -/
theorem setter_shadowed :
    cachedData Reference.sysvarCrates
        (Setter.apply Reference.sysvarCrates
          (Reference.emptyVm.after Reference.sysvarCrates Reference.idleRuntime
            [.execute clockCall [clockAccount 3] true]) (.setClock ⟨7, 0, 0, 0, 0⟩)) [] .clock =
      some (clockAccount 3).data ∧
    ¬ TakesEffect Reference.sysvarCrates
      (Reference.emptyVm.after Reference.sysvarCrates Reference.idleRuntime
        [.execute clockCall [clockAccount 3] true]) (.setClock ⟨7, 0, 0, 0, 0⟩) clockCall [] := by
  refine ⟨by decide, ?_⟩
  unfold TakesEffect
  decide

end QuasarSvm
end Svm
end Quasar
