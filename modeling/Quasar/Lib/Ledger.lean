import Mathlib.Algebra.BigOperators.Ring.Finset
import Mathlib.Tactic.Ring

/-!
# Ledger — totals of changes under keys

A run of transfers is a list of changes, each under a key.  An observer sees only some keys, once
each.  What the observer's keys change by in total is what all the changes add up to, provided that
every change under another key is zero and no observed key is listed twice.
-/

namespace Lib
namespace Ledger

open Finset

/-! ## Changes between two snapshots -/

section Snapshots

variable {κ : Type}

/-- What each entry of a snapshot changes by in the next one, entry by entry. -/
def changes (before after : List (κ × ℕ)) : List (κ × ℤ) :=
  (before.zip after).map fun pair => (pair.1.1, (pair.2.2 : ℤ) - pair.1.2)

theorem keys_changes {before after : List (κ × ℕ)} (hlen : after.length = before.length) :
    (changes before after).map Prod.fst = before.map Prod.fst := by
  induction before generalizing after with
  | nil => simp [changes]
  | cons p ps ih =>
      cases after with
      | nil => simp at hlen
      | cons q qs =>
          have htail := @ih qs (by simpa using hlen)
          simpa [changes] using htail

/-- The changes add up to the difference of the totals. -/
theorem sum_changes {before after : List (κ × ℕ)} (hlen : after.length = before.length) :
    ((changes before after).map Prod.snd).sum =
      ((after.map Prod.snd).sum : ℤ) - (before.map Prod.snd).sum := by
  induction before generalizing after with
  | nil =>
      have hnil : after = [] := List.length_eq_zero_iff.1 hlen
      simp [changes, hnil]
  | cons p ps ih =>
      cases after with
      | nil => simp at hlen
      | cons q qs =>
          have htail := @ih qs (by simpa using hlen)
          simp only [changes] at htail
          simp only [changes, List.zip_cons_cons, List.map_cons, List.sum_cons, htail]
          push_cast
          ring

end Snapshots

/-! ## Totals of observed keys -/

variable {κ : Type} [DecidableEq κ]

/-- Changes outside a set of keys that are all zero can be left out of the total. -/
theorem sum_filter_of_outside_zero {seen : Finset κ} {changes : List (κ × ℤ)}
    (houtside : ∀ c ∈ changes, c.1 ∉ seen → c.2 = 0) :
    ((changes.filter fun c => c.1 ∈ seen).map Prod.snd).sum = (changes.map Prod.snd).sum := by
  induction changes with
  | nil => rfl
  | cons c cs ih =>
      have hrest : ∀ c' ∈ cs, c'.1 ∉ seen → c'.2 = 0 := by
        intro c' hc'
        exact houtside c' (by simp [hc'])
      by_cases hc : c.1 ∈ seen
      · simp [hc, ih hrest]
      · have hzero : c.2 = 0 := houtside c (by simp) hc
        simp [hc, hzero, ih hrest]

/-- The total change of the observed keys is the total of the listed changes. -/
theorem sum_observed {seen : Finset κ} {changes : List (κ × ℤ)} {change : κ → ℤ}
    (hnodup : ((changes.filter fun c => c.1 ∈ seen).map Prod.fst).Nodup)
    (hlisted : ∀ c ∈ changes, c.1 ∈ seen → change c.1 = c.2)
    (hunlisted : ∀ k ∈ seen, k ∉ changes.map Prod.fst → change k = 0)
    (houtside : ∀ c ∈ changes, c.1 ∉ seen → c.2 = 0) :
    ∑ k ∈ seen, change k = (changes.map Prod.snd).sum := by
  have hvalues : (changes.filter fun c => c.1 ∈ seen).map Prod.snd =
      ((changes.filter fun c => c.1 ∈ seen).map Prod.fst).map change := by
    rw [List.map_map]
    refine List.map_congr_left ?_
    intro c hc
    have hc' := List.mem_filter.1 hc
    exact (hlisted c hc'.1 (by simpa using hc'.2)).symm
  have hsubset : ((changes.filter fun c => c.1 ∈ seen).map Prod.fst).toFinset ⊆ seen := by
    intro k hk
    rcases List.mem_map.1 (List.mem_toFinset.1 hk) with ⟨c, hc, rfl⟩
    simpa using (List.mem_filter.1 hc).2
  calc
    ∑ k ∈ seen, change k
        = ∑ k ∈ ((changes.filter fun c => c.1 ∈ seen).map Prod.fst).toFinset, change k := by
          refine (sum_subset hsubset ?_).symm
          intro k hk hnot
          refine hunlisted k hk ?_
          intro hmem
          rcases List.mem_map.1 hmem with ⟨c, hc, rfl⟩
          refine hnot (List.mem_toFinset.2 (List.mem_map.2 ⟨c, ?_, rfl⟩))
          exact List.mem_filter.2 ⟨hc, by simpa using hk⟩
    _ = (((changes.filter fun c => c.1 ∈ seen).map Prod.fst).map change).sum :=
          List.sum_toFinset change hnodup
    _ = ((changes.filter fun c => c.1 ∈ seen).map Prod.snd).sum := by rw [hvalues]
    _ = (changes.map Prod.snd).sum := sum_filter_of_outside_zero houtside

end Ledger
end Lib
