import Mathlib.Logic.Function.Basic

/-!
# Blocks — a memory of allocated blocks

A pointer is the allocation it came from.  Once its block is freed it points to nothing for ever,
also when the allocator hands the same address out again under another pointer.
-/

namespace Lib

/-- The live blocks and the pointer that the next allocation gets. -/
structure Blocks (α : Type) where
  contents : Nat → Option α
  next : Nat
  fresh : ∀ b, next ≤ b → contents b = none

namespace Blocks

variable {α : Type} (m : Blocks α)

def empty : Blocks α :=
  { contents := fun _ => none
    next := 0
    fresh := fun _ _ => rfl }

/-- A fresh block with a value in it. -/
def alloc (a : α) : Blocks α :=
  { contents := Function.update m.contents m.next (some a)
    next := m.next + 1
    fresh := by
      intro b hb
      have hne : b ≠ m.next := by omega
      rw [Function.update_of_ne hne]
      exact m.fresh b (by omega) }

/-- Another value in a live block; a pointer without a block stays without one. -/
def modify (b : Nat) (f : α → α) : Blocks α :=
  { contents := Function.update m.contents b ((m.contents b).map f)
    next := m.next
    fresh := by
      intro b' hb'
      have hnone := m.fresh b' hb'
      by_cases hb : b' = b
      · subst hb
        simp [hnone]
      · rwa [Function.update_of_ne hb] }

def free (b : Nat) : Blocks α :=
  { contents := Function.update m.contents b none
    next := m.next
    fresh := by
      intro b' hb'
      by_cases hb : b' = b
      · subst hb
        simp
      · rw [Function.update_of_ne hb]
        exact m.fresh b' hb' }

/-! ## What a pointer finds -/

@[simp] theorem contents_empty (b : Nat) : (empty : Blocks α).contents b = none := rfl

@[simp] theorem contents_next : m.contents m.next = none :=
  m.fresh m.next (Nat.le_refl _)

@[simp] theorem contents_alloc_next (a : α) : (m.alloc a).contents m.next = some a := by
  simp [alloc]

theorem contents_alloc_of_ne (a : α) {b : Nat} (h : b ≠ m.next) :
    (m.alloc a).contents b = m.contents b := by
  simp [alloc, h]

@[simp] theorem contents_modify_self (b : Nat) (f : α → α) :
    (m.modify b f).contents b = (m.contents b).map f := by
  simp [modify]

theorem contents_modify_of_ne {b b' : Nat} (h : b' ≠ b) (f : α → α) :
    (m.modify b f).contents b' = m.contents b' := by
  simp [modify, h]

@[simp] theorem contents_free_self (b : Nat) : (m.free b).contents b = none := by
  simp [free]

theorem contents_free_of_ne {b b' : Nat} (h : b' ≠ b) :
    (m.free b).contents b' = m.contents b' := by
  simp [free, h]

variable {m}

theorem lt_next_of_contents {b : Nat} {a : α} (h : m.contents b = some a) : b < m.next := by
  by_contra hge
  have hnone := m.fresh b (Nat.le_of_not_lt hge)
  cases hnone.symm.trans h

/-- A live pointer is not the next one to be handed out. -/
theorem ne_next_of_contents {b : Nat} {a : α} (h : m.contents b = some a) : b ≠ m.next :=
  Nat.ne_of_lt (lt_next_of_contents h)

/-- An allocation leaves live blocks alone. -/
theorem contents_alloc_of_live {b : Nat} {a : α} (h : m.contents b = some a) (a' : α) :
    (m.alloc a').contents b = some a :=
  (m.contents_alloc_of_ne a' (ne_next_of_contents h)).trans h

end Blocks
end Lib
