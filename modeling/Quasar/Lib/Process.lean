import Quasar.Lib.Machine

/-!
# Process — machines whose steps may be undefined

A process takes inputs one after another; a step that is undefined has no successor, and a run ends
with it.  A run records each input with its reply.  What the steps preserve of the state and the events
so far, and what one component makes of the part of a run that concerns it, follow from one fact about
each step.
-/

namespace Lib

structure Process (σ ι ο : Type) where
  step : σ → ι → Option (σ × ο)

namespace Process

variable {σ ι ο : Type} (p : Process σ ι ο)

/-- The state after a list of inputs and each input with its reply; absent when a step is
undefined. -/
def run (s : σ) : List ι → Option (σ × List (ι × ο))
  | [] => some (s, [])
  | i :: is =>
      match p.step s i with
      | none => none
      | some r => (run r.1 is).map fun rest => (rest.1, (i, r.2) :: rest.2)

@[simp] theorem run_nil (s : σ) : p.run s [] = some (s, []) := rfl

variable {p} {s s' s'' : σ} {i : ι} {is js : List ι} {o : ο} {tr tr' : List (ι × ο)}

theorem run_cons_of_none (h : p.step s i = none) (is : List ι) : p.run s (i :: is) = none := by
  simp only [run, h]

theorem run_cons_of_some (h : p.step s i = some (s', o)) (is : List ι) :
    p.run s (i :: is) = (p.run s' is).map fun rest => (rest.1, (i, o) :: rest.2) := by
  simp only [run, h]

/-- A run of at least one input is a step and a run. -/
theorem run_cons_eq_some_iff :
    p.run s (i :: is) = some (s'', tr) ↔
      ∃ s' o rest, p.step s i = some (s', o) ∧ p.run s' is = some (s'', rest) ∧
        tr = (i, o) :: rest := by
  cases hstep : p.step s i with
  | none => simp [run_cons_of_none hstep]
  | some r =>
      rcases r with ⟨s₁, o⟩
      rw [run_cons_of_some hstep, Option.map_eq_some_iff]
      constructor
      · rintro ⟨⟨s₂, rest⟩, hrest, hpair⟩
        cases hpair
        exact ⟨s₁, o, rest, rfl, hrest, rfl⟩
      · rintro ⟨s₂, o', rest, hpair, hrest, rfl⟩
        cases hpair
        exact ⟨(s'', rest), hrest, rfl⟩

/-- An event of a run is a step after the events before it. -/
theorem step_of_run (h : p.run s is = some (s', tr ++ (i, o) :: tr')) :
    ∃ s₁ s₂, p.run s (tr.map Prod.fst) = some (s₁, tr) ∧ p.step s₁ i = some (s₂, o) := by
  induction tr generalizing s is with
  | nil =>
      cases is with
      | nil => cases h
      | cons j is =>
          rcases run_cons_eq_some_iff.1 h with ⟨s₂, o', rest, hone, _, hevents⟩
          cases hevents
          exact ⟨s, s₂, rfl, hone⟩
  | cons e tr ih =>
      cases is with
      | nil => cases h
      | cons j is =>
          rcases run_cons_eq_some_iff.1 h with ⟨s₁, o', rest, hone, hrest, hevents⟩
          cases hevents
          rcases ih hrest with ⟨s₂, s₃, hrun, hstep⟩
          exact ⟨s₂, s₃, run_cons_eq_some_iff.2 ⟨s₁, o', tr, hone, hrun, rfl⟩, hstep⟩

/-- What every step preserves of the state and the events so far, every run preserves. -/
theorem run_history {P : σ → List (ι × ο) → Prop}
    (hstep : ∀ s pre i s' o, P s pre → p.step s i = some (s', o) → P s' (pre ++ [(i, o)]))
    (hs : P s []) (h : p.run s is = some (s', tr)) : P s' tr := by
  have hbehind : ∀ pre, P s pre → P s' (pre ++ tr) := by
    clear hs
    induction is generalizing s tr with
    | nil =>
        cases h
        intro pre hpre
        rwa [List.append_nil]
    | cons i is ih =>
        rcases run_cons_eq_some_iff.1 h with ⟨s₁, o, rest, hone, hrest, rfl⟩
        intro pre hpre
        have hafter := ih hrest (pre ++ [(i, o)]) (hstep s pre i s₁ o hpre hone)
        rwa [List.append_assoc] at hafter
  exact hbehind [] hs

/-! ## Cells -/

/-- The last value that the events of a run write to a cell. -/
def lastWrite {ε α : Type} (w : ε → Option α) (tr : List ε) : Option α :=
  tr.reverse.findSome? w

@[simp] theorem lastWrite_nil {ε α : Type} (w : ε → Option α) : lastWrite w [] = none := rfl

theorem lastWrite_cons {ε α : Type} (w : ε → Option α) (e : ε) (tr : List ε) :
    lastWrite w (e :: tr) = (lastWrite w tr).or (w e) := by
  simp [lastWrite, List.findSome?_append]

theorem lastWrite_concat {ε α : Type} (w : ε → Option α) (tr : List ε) (e : ε) :
    lastWrite w (tr ++ [e]) = (w e).or (lastWrite w tr) := by
  cases hw : w e with
  | none => simp [lastWrite, hw]
  | some a => simp [lastWrite, hw]

/-! ## Components -/

/-- A component that some events of a process concern.  `sel` is what such an event gives the
component and what it replies; the component follows its events and stays related to the process. -/
theorem run_project {τ κ ρ : Type} {m : Machine τ κ ρ} {R : σ → τ → Prop} {E : ι → Prop}
    (sel : ι × ο → Option (κ × ρ))
    (hown : ∀ s t i s' o k r, R s t → E i → p.step s i = some (s', o) → sel (i, o) = some (k, r) →
      R s' (m.step t k).1 ∧ r = (m.step t k).2)
    (hother : ∀ s t i s' o, R s t → E i → p.step s i = some (s', o) → sel (i, o) = none → R s' t)
    {t : τ} (ht : R s t) (hE : ∀ i ∈ is, E i) (h : p.run s is = some (s', tr)) :
    R s' (m.after t ((tr.filterMap sel).map Prod.fst)) ∧
      (tr.filterMap sel).map Prod.snd = m.replies t ((tr.filterMap sel).map Prod.fst) := by
  induction is generalizing s t tr with
  | nil =>
      cases h
      exact ⟨ht, rfl⟩
  | cons i is ih =>
      rcases run_cons_eq_some_iff.1 h with ⟨s₁, o, rest, hone, hrest, rfl⟩
      rcases List.forall_mem_cons.1 hE with ⟨hEi, hErest⟩
      cases hsel : sel (i, o) with
      | none =>
          -- The component does not notice the event.
          rw [List.filterMap_cons_none hsel]
          exact ih (hother s t i s₁ o ht hEi hone hsel) hErest hrest
      | some kr =>
          rcases kr with ⟨k, r⟩
          rcases hown s t i s₁ o k r ht hEi hone hsel with ⟨hrelated, hreply⟩
          rcases ih hrelated hErest hrest with ⟨hafter, hreplies⟩
          rw [List.filterMap_cons_some hsel]
          refine ⟨hafter, ?_⟩
          simp only [List.map_cons, Machine.replies_cons, hreply, hreplies]

/-! ## When a run is defined -/

/-- Where an invariant tells which steps are defined, a run is defined exactly when every step of it
is one of these. -/
theorem isSome_run_iff {P : σ → Prop} {G : σ → ι → Prop}
    (hdefined : ∀ s i, P s → ((p.step s i).isSome ↔ G s i))
    (hstep : ∀ s i s' o, P s → p.step s i = some (s', o) → P s') (hs : P s) (is : List ι) :
    (p.run s is).isSome ↔
      ∀ pre i post, is = pre ++ i :: post → ∀ s' tr, p.run s pre = some (s', tr) → G s' i := by
  induction is generalizing s with
  | nil => simp
  | cons i is ih =>
      constructor
      · intro hsome
        rcases Option.isSome_iff_exists.1 hsome with ⟨⟨s'', tr⟩, hrun⟩
        rcases run_cons_eq_some_iff.1 hrun with ⟨s₁, o, rest, hone, hrest, rfl⟩
        have hG : G s i := (hdefined s i hs).1 (by simp [hone])
        have hafter := (ih (hstep s i s₁ o hs hone)).1 (by simp [hrest])
        intro pre j post hsplit s' tr' hpre
        cases pre with
        | nil =>
            cases hsplit
            cases hpre
            exact hG
        | cons k pre =>
            cases hsplit
            rcases run_cons_eq_some_iff.1 hpre with ⟨s₂, o', rest', hone', hrest', rfl⟩
            cases hone.symm.trans hone'
            exact hafter pre j post rfl s' rest' hrest'
      · intro hguard
        have hG := hguard [] i is rfl s [] rfl
        rcases Option.isSome_iff_exists.1 ((hdefined s i hs).2 hG) with ⟨⟨s₁, o⟩, hone⟩
        have hrest : (p.run s₁ is).isSome := by
          refine (ih (hstep s i s₁ o hs hone)).2 ?_
          rintro pre j post rfl s' tr' hpre
          exact hguard (i :: pre) j post rfl s' ((i, o) :: tr')
            (run_cons_eq_some_iff.2 ⟨s₁, o, tr', hone, hpre, rfl⟩)
        rw [run_cons_of_some hone]
        simpa using hrest

end Process
end Lib
