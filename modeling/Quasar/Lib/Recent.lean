import Mathlib.Data.List.Sort

/-!
# Recent — a bounded list of entries in descending order of their keys

An entry is added at its place in the order, or over the entry with the same key, and the list is
then cut to its capacity.  Adding the numbers below a bound one after the other keeps the most
recent of them: `window cap top` is the list of the `cap` numbers below `top`.
-/

namespace Lib
namespace Recent

/-! ## Adding an entry -/

section Add

variable {κ ν : Type} [LT κ]

/-- The list after an entry is added to `before`. -/
inductive Added (cap : Nat) (before : List (κ × ν)) (k : κ) (v : ν) : List (κ × ν) → Prop
  | overwrite (pre post : List (κ × ν)) (old : ν) (hbefore : before = pre ++ (k, old) :: post) :
      Added cap before k v ((pre ++ (k, v) :: post).take cap)
  | insert (pre post : List (κ × ν)) (hbefore : before = pre ++ post)
      (hpre : ∀ e ∈ pre, k < e.1) (hpost : ∀ e ∈ post, e.1 < k) :
      Added cap before k v ((pre ++ (k, v) :: post).take cap)

variable [Std.Asymm (LT.lt : κ → κ → Prop)]
variable {cap : Nat} {before after : List (κ × ν)} {k : κ} {v : ν}

theorem not_lt_self (k : κ) : ¬ k < k :=
  fun h => Std.Asymm.asymm k k h h

/-- An entry newer than all others comes to the front. -/
theorem Added.of_newer (h : Added cap before k v after) (hnewer : ∀ e ∈ before, e.1 < k) :
    after = ((k, v) :: before).take cap := by
  cases h with
  | overwrite pre post old hbefore =>
      have hlt : k < k := hnewer (k, old) (by simp [hbefore])
      exact absurd hlt (not_lt_self k)
  | insert pre post hbefore hpre hpost =>
      have hnil : pre = [] := by
        refine List.eq_nil_iff_forall_not_mem.2 ?_
        intro e he
        have hlt : e.1 < k := hnewer e (by simp [hbefore, he])
        exact Std.Asymm.asymm e.1 k hlt (hpre e he)
      subst hnil
      simp [hbefore]

/-- An entry that is there already changes nothing when all entries carry the same value. -/
theorem Added.of_mem (h : Added cap before k v after) (hmem : ∃ e ∈ before, e.1 = k)
    (hvalue : ∀ e ∈ before, e.2 = v) : after = before.take cap := by
  cases h with
  | overwrite pre post old hbefore =>
      have hold : old = v := hvalue (k, old) (by simp [hbefore])
      rw [hbefore, hold]
  | insert pre post hbefore hpre hpost =>
      obtain ⟨e, he, rfl⟩ := hmem
      rw [hbefore] at he
      rcases List.mem_append.1 he with he | he
      · exact absurd (hpre e he) (not_lt_self e.1)
      · exact absurd (hpost e he) (not_lt_self e.1)

end Add

/-! ## The most recent numbers -/

/-- The `cap` numbers below `top`, newest first; below `0` comes `0` again. -/
def window (cap top : Nat) : List Nat :=
  (List.range cap).map fun j => top - 1 - j

variable {cap top k : Nat}

@[simp] theorem length_window : (window cap top).length = cap := by
  simp [window]

theorem head?_window (hcap : 0 < cap) : (window cap top).head? = some (top - 1) := by
  simp [window, List.head?_range, Nat.ne_of_gt hcap]

theorem mem_window : k ∈ window cap top ↔ ∃ j < cap, k = top - 1 - j := by
  simp [window, eq_comm]

theorem le_of_mem_window (h : k ∈ window cap top) : k ≤ top - 1 := by
  obtain ⟨j, -, rfl⟩ := mem_window.1 h
  exact Nat.sub_le (top - 1) j

theorem newest_mem_window (hcap : 0 < cap) : top - 1 ∈ window cap top :=
  mem_window.2 ⟨0, hcap, rfl⟩

theorem window_descending : (window cap top).Pairwise (· ≥ ·) := by
  refine List.Pairwise.map _ ?_ List.pairwise_lt_range
  intro i j hij
  exact Nat.sub_le_sub_left (Nat.le_of_lt hij) (top - 1)

theorem window_zero : window cap 0 = List.replicate cap 0 := by
  simp [window]

/-- The next number pushes out the oldest one. -/
theorem take_cons_window : (top :: window cap top).take cap = window cap (top + 1) := by
  cases cap with
  | zero => rfl
  | succ cap =>
      refine List.ext_getElem (by simp) ?_
      intro i hi hi'
      cases i with
      | zero => simp [window]
      | succ i =>
          simp only [window, List.take_succ_cons, List.getElem_cons_succ, List.getElem_take,
            List.getElem_map, List.getElem_range]
          omega

end Recent
end Lib
