import Quasar.Svm.Iteration
import Quasar.Svm.Setup

/-!
# SamePrograms — in which order programs are loaded

VMs that find the same entries under every id behave alike for ever.  So the order in which programs
were loaded makes no difference, and a program that is loaded again as it was changes nothing.
-/

namespace Quasar
namespace Svm
namespace QuasarSvm

open Lib

variable {cr : Crates} {rt : Runtime} {svm svm' : QuasarSvm}

/-! ## Loading a program again -/

/-- A program that is there already is there in the same way when it is loaded again. -/
theorem sameProgramCaches_replenish {pc : ProgramCache} {programId : Pubkey}
    {entry : ProgramCacheEntry} {elf : Option Bytes}
    (hbase : pc.cache.entries.lookup programId = some entry)
    (hrecorded : pc.entries.lookup programId =
      some { loaderKey := entry.accountOwner, elf := elf }) :
    SameProgramCaches pc (pc.replenish programId entry elf) := by
  refine ⟨fun id => ⟨rfl, ?_⟩, fun id => ?_⟩
  -- Each map gets the entry that it has, so only its order changes.
  · simp only [ProgramCache.replenish, ProgramCacheForTxBatch.replenish, HashMap.lookup_insert_eq]
    by_cases hid : programId = id
    · subst hid
      rw [if_pos rfl, hbase]
    · rw [if_neg hid]
  · simp only [ProgramCache.replenish, HashMap.lookup_insert_eq]
    by_cases hid : programId = id
    · subst hid
      rw [if_pos rfl, hrecorded]
    · rw [if_neg hid]

/-- The program is in the cache as loading it from `elf` puts it there. -/
def Loaded (cr : Crates) (svm : QuasarSvm) (programId loaderKey : Pubkey) (elf : Bytes) : Prop :=
  ∃ entry, cr.programCacheEntryNew loaderKey elf = some entry ∧
    svm.programCache.cache.entries.lookup programId = some entry ∧
    svm.programCache.entries.lookup programId =
      some { loaderKey := entry.accountOwner, elf := some elf }

theorem SamePrograms.refl (svm : QuasarSvm) : SamePrograms svm svm :=
  ⟨svm.logger, svm.programCache, ⟨fun _ => ⟨rfl, rfl⟩, fun _ => rfl⟩, rfl⟩

theorem SamePrograms.trans {svm₁ svm₂ svm₃ : QuasarSvm} (h : SamePrograms svm₁ svm₂)
    (h' : SamePrograms svm₂ svm₃) : SamePrograms svm₁ svm₃ := by
  rcases h with ⟨logger, pc, ⟨hcaches, hrecorded⟩, rfl⟩
  rcases h' with ⟨logger', pc', ⟨hcaches', hrecorded'⟩, rfl⟩
  refine ⟨logger', pc', ⟨fun id => ⟨?_, ?_⟩, fun id => ?_⟩, rfl⟩
  · exact (hcaches' id).1.trans (hcaches id).1
  · exact (hcaches' id).2.trans (hcaches id).2
  · exact (hrecorded' id).trans (hrecorded id)

variable {programId loaderKey : Pubkey} {elf : Bytes}

theorem loaded_of_addProgram (h : svm.addProgram cr programId loaderKey elf = (svm', .ok ())) :
    Loaded cr svm' programId loaderKey elf := by
  unfold QuasarSvm.addProgram ProgramCache.addProgram at h
  cases hentry : cr.programCacheEntryNew loaderKey elf with
  | none => simp [hentry] at h
  | some entry =>
      rw [hentry] at h
      cases h
      refine ⟨entry, hentry, ?_, ?_⟩
      · simp [ProgramCache.replenish, ProgramCacheForTxBatch.replenish]
      · simp [ProgramCache.replenish]

/-- Loading another program leaves a loaded one as it is. -/
theorem Loaded.addProgram {programId' loaderKey' : Pubkey} {elf' : Bytes}
    (h : Loaded cr svm programId loaderKey elf) (hne : programId' ≠ programId)
    (hadd : svm.addProgram cr programId' loaderKey' elf' = (svm', .ok ())) :
    Loaded cr svm' programId loaderKey elf := by
  rcases h with ⟨entry, hnew, hbase, hrecorded⟩
  unfold QuasarSvm.addProgram ProgramCache.addProgram at hadd
  cases hentry : cr.programCacheEntryNew loaderKey' elf' with
  | none => simp [hentry] at hadd
  | some entry' =>
      rw [hentry] at hadd
      cases hadd
      refine ⟨entry, hnew, ?_, ?_⟩
      · simp [ProgramCache.replenish, ProgramCacheForTxBatch.replenish, HashMap.lookup_insert_eq,
          hne, hbase]
      · simp [ProgramCache.replenish, HashMap.lookup_insert_eq, hne, hrecorded]

/-- Where a program is loaded already, loading it again succeeds and makes no difference. -/
theorem SamePrograms.reload (h : SamePrograms svm svm')
    (hloaded : Loaded cr svm programId loaderKey elf) :
    (svm'.addProgram cr programId loaderKey elf).2 = .ok () ∧
      SamePrograms svm (svm'.addProgram cr programId loaderKey elf).1 := by
  rcases hloaded with ⟨entry, hnew, hbase, hrecorded⟩
  have hagain : svm.addProgram cr programId loaderKey elf =
      ({ svm with programCache := svm.programCache.replenish programId entry (some elf) },
        .ok ()) := by
    simp only [QuasarSvm.addProgram, ProgramCache.addProgram, hnew, Option.map_some]
  have hsame : SamePrograms svm (svm.addProgram cr programId loaderKey elf).1 := by
    rw [hagain]
    exact ⟨svm.logger, _, sameProgramCaches_replenish hbase hrecorded, rfl⟩
  rcases h.addProgram cr programId loaderKey elf with ⟨hreply, hnext⟩
  refine ⟨?_, hsame.trans hnext⟩
  rw [← hreply, hagain]

/-- A new VM has all the bundled programs. -/
theorem loaded_new {bundle : Bundle} (h : QuasarSvm.new cr bundle = some svm) :
    Loaded cr svm splTokenProgramId cr.loaderV2Id bundle.splToken ∧
      Loaded cr svm splToken2022ProgramId cr.loaderV3Id bundle.splToken2022 ∧
      Loaded cr svm splAssociatedTokenProgramId cr.loaderV2Id bundle.splAssociatedToken := by
  rcases Option.bind_eq_some_iff.1 h with ⟨svm₁, h₁, hrest⟩
  rcases Option.bind_eq_some_iff.1 hrest with ⟨svm₂, h₂, h₃⟩
  have hadded : ∀ {svm svm' : QuasarSvm} {programId loader : Pubkey} {elf : Bytes},
      svm.loadIf cr true programId loader elf = some svm' →
      svm.addProgram cr programId loader elf = (svm', .ok ()) := by
    intro svm svm' programId loader elf hload
    simp only [loadIf, if_true, withProgramLoader] at hload
    split at hload
    · rename_i hadd
      cases hload
      exact hadd
    · cases hload
  have htoken := loaded_of_addProgram (hadded h₁)
  have htoken2022 := loaded_of_addProgram (hadded h₂)
  have hassociated := loaded_of_addProgram (hadded h₃)
  -- The three ids differ, so a program stays as it is while the next ones are loaded.
  refine ⟨?_, htoken2022.addProgram (by decide) (hadded h₃), hassociated⟩
  exact (htoken.addProgram (by decide) (hadded h₂)).addProgram (by decide) (hadded h₃)

/-! ## The order of loading -/

/-- A program that is loaded. -/
structure Addition where
  programId : Pubkey
  loaderKey : Pubkey
  elf : Bytes

def Addition.operation (a : Addition) : Operation :=
  .addProgram a.programId a.loaderKey a.elf

/-- The last of the programs with this id that could be loaded. -/
def lastAddition (cr : Crates) (adds : List Addition) (id : Pubkey) :
    Option (ProgramCacheEntry × Bytes) :=
  HashMap.lastOf id (adds.filterMap fun a =>
    (cr.programCacheEntryNew a.loaderKey a.elf).map fun entry => (a.programId, (entry, a.elf)))

/-- Programs that are loaded fill the program cache only. -/
theorem after_additions_eq (cr : Crates) (rt : Runtime) (svm : QuasarSvm) (adds : List Addition) :
    ∃ pc, svm.after cr rt (adds.map Addition.operation) = { svm with programCache := pc } := by
  induction adds generalizing svm with
  | nil => exact ⟨svm.programCache, rfl⟩
  | cons a adds ih =>
      have hhead : ∃ pc, (svm.operate cr rt a.operation).1 = { svm with programCache := pc } := by
        simp only [Addition.operation, operate, QuasarSvm.addProgram, ProgramCache.addProgram]
        cases cr.programCacheEntryNew a.loaderKey a.elf with
        | none => exact ⟨svm.programCache, rfl⟩
        | some entry => exact ⟨_, rfl⟩
      rcases hhead with ⟨pc, hhead⟩
      rcases ih (svm.operate cr rt a.operation).1 with ⟨pc', hrest⟩
      refine ⟨pc', ?_⟩
      rw [List.map_cons]
      exact hrest.trans (by rw [hhead])

/-- Under each id the caches have the last program that could be loaded. -/
theorem lookup_after_additions (cr : Crates) (rt : Runtime) (svm : QuasarSvm)
    (adds : List Addition) (id : Pubkey) :
    (svm.after cr rt (adds.map Addition.operation)).programCache.cache.modifiedEntries.lookup id =
        svm.programCache.cache.modifiedEntries.lookup id ∧
      (svm.after cr rt (adds.map Addition.operation)).programCache.cache.entries.lookup id =
        ((lastAddition cr adds id).map Prod.fst).or (svm.programCache.cache.entries.lookup id) ∧
      (svm.after cr rt (adds.map Addition.operation)).programCache.entries.lookup id =
        ((lastAddition cr adds id).map recordedEntry).or (svm.programCache.entries.lookup id) := by
  induction adds generalizing svm with
  | nil => exact ⟨rfl, rfl, rfl⟩
  | cons a adds ih =>
      have hlast : lastAddition cr (a :: adds) id =
          (lastAddition cr adds id).or (addedProgram cr id a.operation) := by
        unfold lastAddition addedProgram Addition.operation
        cases hnew : cr.programCacheEntryNew a.loaderKey a.elf with
        | none => simp [hnew]
        | some entry =>
            simp only [List.filterMap_cons, hnew, Option.map_some, HashMap.lastOf_cons]
      -- A later addition of the id goes before the first one, and this before what was there.
      rcases programCache_operate cr rt svm id a.operation with ⟨hmodified, hbase, hrecorded⟩
      rcases ih (svm.operate cr rt a.operation).1 with ⟨hmodified', hbase', hrecorded'⟩
      rw [hlast]
      refine ⟨hmodified'.trans hmodified, ?_, ?_⟩
      · refine hbase'.trans ?_
        rw [hbase, ← Option.or_assoc]
        cases lastAddition cr adds id with
        | none => rfl
        | some p => rfl
      · refine hrecorded'.trans ?_
        rw [hrecorded, ← Option.or_assoc]
        cases lastAddition cr adds id with
        | none => rfl
        | some p => rfl

/-- Loading programs draws nothing. -/
theorem afterDrawn_additions {adds : List Addition} {draws : List Drawn}
    (h : draws.map Prod.fst = adds.map Addition.operation) (svm : QuasarSvm) :
    svm.afterDrawn cr rt draws = svm.after cr rt (adds.map Addition.operation) := by
  induction adds generalizing draws svm with
  | nil =>
      rw [List.map_eq_nil_iff.1 h]
      rfl
  | cons a adds ih =>
      rcases List.map_eq_cons_iff.1 h with ⟨⟨op, order⟩, draws, rfl, hop, hrest⟩
      -- No order is looked at where a program is loaded.
      have hstep : (svm.operate (cr.withOrder order.iter) rt op).1 =
          (svm.operate cr rt a.operation).1 := by
        rw [show op = a.operation from hop]
        rfl
      have htail := ih hrest (svm.operate cr rt a.operation).1
      rw [← hstep] at htail
      rw [List.map_cons]
      exact htail.trans (by rw [hstep]; rfl)

/-- Two VMs for which the last program that could be loaded under each id is the same find the same
programs. -/
theorem samePrograms_after_additions {adds adds' : List Addition}
    (hlast : ∀ id, lastAddition cr adds id = lastAddition cr adds' id) (svm : QuasarSvm) :
    SamePrograms (svm.after cr rt (adds.map Addition.operation))
      (svm.after cr rt (adds'.map Addition.operation)) := by
  have hlookup : ∀ id, _ := fun id => lookup_after_additions cr rt svm adds id
  have hlookup' : ∀ id, _ := fun id => lookup_after_additions cr rt svm adds' id
  rcases after_additions_eq cr rt svm adds with ⟨pc, hpc⟩
  rcases after_additions_eq cr rt svm adds' with ⟨pc', hpc'⟩
  rw [hpc] at hlookup ⊢
  rw [hpc'] at hlookup' ⊢
  refine ⟨svm.logger, pc', ⟨fun id => ⟨?_, ?_⟩, fun id => ?_⟩, rfl⟩
  · exact (hlookup' id).1.trans (hlookup id).1.symm
  · refine (hlookup' id).2.1.trans ?_
    rw [← hlast id]
    exact (hlookup id).2.1.symm
  · refine (hlookup' id).2.2.trans ?_
    rw [← hlast id]
    exact (hlookup id).2.2.symm

/-- However programs are loaded, in which order, and however often: two VMs for which the last program
that could be loaded under each id is the same can give the same replies to all operations from then
on, and where no operation depends on the order that it draws they do. -/
theorem replies_after_additions {adds adds' : List Addition}
    (hlast : ∀ id, lastAddition cr adds id = lastAddition cr adds' id) (svm : QuasarSvm)
    {draws draws' : List Drawn} (hdraws : draws.map Prod.fst = adds.map Addition.operation)
    (hdraws' : draws'.map Prod.fst = adds'.map Addition.operation) :
    (∀ ops replies,
      (drawnMachine cr rt).CanReply (svm.afterDrawn cr rt draws) ops replies ↔
        (drawnMachine cr rt).CanReply (svm.afterDrawn cr rt draws') ops replies) ∧
      ∀ more more' : List Drawn, more.map Prod.fst = more'.map Prod.fst →
        (∀ p ∈ (drawnMachine cr rt).steps (svm.afterDrawn cr rt draws) more, Settled cr p.1 p.2.1) →
          (drawnMachine cr rt).replies (svm.afterDrawn cr rt draws) more =
            (drawnMachine cr rt).replies (svm.afterDrawn cr rt draws') more' := by
  have hsame : SamePrograms (svm.afterDrawn cr rt draws) (svm.afterDrawn cr rt draws') := by
    rw [afterDrawn_additions hdraws, afterDrawn_additions hdraws']
    exact samePrograms_after_additions hlast svm
  refine ⟨fun ops replies => samePrograms_drawn.canReply_iff hsame ops replies, ?_⟩
  intro more more' hmore hsettled
  calc (drawnMachine cr rt).replies (svm.afterDrawn cr rt draws) more
      = (drawnMachine cr rt).replies (svm.afterDrawn cr rt draws) more' :=
        replies_of_settled hmore hsettled
    _ = (drawnMachine cr rt).replies (svm.afterDrawn cr rt draws') more' :=
        samePrograms_drawn.replies_eq hsame more'

/-- Two programs in either order, one of them over another one. -/
def inOrder : List Addition :=
  [⟨Pubkey.filled 1, Pubkey.filled 233, [1]⟩, ⟨Pubkey.filled 2, Pubkey.filled 234, [2]⟩]

def overwritten : List Addition :=
  [⟨Pubkey.filled 2, Pubkey.filled 233, [3]⟩, ⟨Pubkey.filled 2, Pubkey.filled 234, [2]⟩,
    ⟨Pubkey.filled 1, Pubkey.filled 233, [1]⟩]

theorem lastAddition_inOrder (id : Pubkey) :
    lastAddition Reference.crates inOrder id = lastAddition Reference.crates overwritten id := by
  have hne : Pubkey.filled 1 ≠ Pubkey.filled 2 := by decide
  simp only [lastAddition, inOrder, overwritten, Reference.crates, List.filterMap_cons,
    List.filterMap_nil, Option.map_some, HashMap.lastOf_cons, HashMap.lastOf_nil]
  by_cases h₁ : Pubkey.filled 1 = id
  · subst h₁
    simp [hne.symm]
  · by_cases h₂ : Pubkey.filled 2 = id
    · simp [h₁, h₂]
    · simp [h₁, h₂]

/-- What a call of both programs replies in the one VM it can reply in the other one. -/
theorem replies_after_additions_sample :
    let draw := fun a : Addition => (a.operation, SetOrder.dedup)
    let vmOf := fun adds : List Addition =>
      Reference.emptyVm.afterDrawn Reference.crates Reference.idleRuntime (adds.map draw)
    let machine := drawnMachine Reference.crates Reference.idleRuntime
    let call : Operation := .execute [Reference.instructionOn (Pubkey.filled 1) [Pubkey.filled 7],
      Reference.instructionOn (Pubkey.filled 2) [Pubkey.filled 8]] [] true
    machine.CanReply (vmOf overwritten) [.loadProgram (Pubkey.filled 1), call]
      (machine.replies (vmOf inOrder)
        [(.loadProgram (Pubkey.filled 1), SetOrder.dedup), (call, SetOrder.dedup)]) := by
  intro draw vmOf machine call
  refine ((replies_after_additions lastAddition_inOrder Reference.emptyVm ?_ ?_).1 _ _).1
    ⟨[(.loadProgram (Pubkey.filled 1), SetOrder.dedup), (call, SetOrder.dedup)], rfl, rfl⟩
  · rfl
  · rfl

end QuasarSvm
end Svm
end Quasar
