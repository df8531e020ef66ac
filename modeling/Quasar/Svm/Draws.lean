import Quasar.Svm.History

/-!
# Draws — every call lists its hash set in an order of its own

An execution builds a hash set of its program ids, and every hash set is seeded anew.  So the order in
which the ids are listed belongs to the call: the engine is a machine that is fed an order with each
operation, and what it can do is what it does for some orders.
-/

namespace Quasar
namespace Svm

open Lib QuasarSvm

/-- The external functions with another iteration order of hash sets. -/
def Crates.withOrder (cr : Crates) (iter : List Pubkey → List Pubkey) : Crates :=
  { cr with hashSetIter := iter }

/-- An order in which a call may list its hash set. -/
structure SetOrder where
  iter : List Pubkey → List Pubkey
  isSetOrder : IsSetOrder iter

/-- The order of the first occurrences. -/
def SetOrder.dedup : SetOrder :=
  { iter := fun l => l.dedup
    isSetOrder := fun l => ⟨List.nodup_dedup l, fun _ => List.mem_dedup⟩ }

/-- The same the other way round. -/
def SetOrder.reverse : SetOrder :=
  { iter := fun l => l.dedup.reverse
    isSetOrder := fun l => ⟨List.nodup_reverse.2 (List.nodup_dedup l), fun _ => by simp⟩ }

/-- An operation with the order that its call draws. -/
abbrev Drawn := Operation × SetOrder

namespace QuasarSvm

/-- The VM as a machine that is fed an order with each operation. -/
def drawnMachine (cr : Crates) (rt : Runtime) : Machine QuasarSvm Drawn Reply :=
  { step := fun svm d => svm.operate (cr.withOrder d.2.iter) rt d.1 }

/-- The VM after a history. -/
def afterDrawn (svm : QuasarSvm) (cr : Crates) (rt : Runtime) (draws : List Drawn) : QuasarSvm :=
  (drawnMachine cr rt).after svm draws

variable {cr : Crates} {rt : Runtime}

/-- Finding the same programs is a bisimulation, whatever is drawn. -/
theorem samePrograms_drawn : (drawnMachine cr rt).Bisimulation SamePrograms :=
  { reply := fun _ _ _ h => (h.operate _).1
    next := fun _ _ _ h => (h.operate _).2 }

end QuasarSvm
end Svm
end Quasar
