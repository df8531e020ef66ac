import Mathlib.Data.List.Basic
import Mathlib.Data.List.Induction

/-!
# Machine — deterministic machines with replies, and when two states behave alike

A machine answers each input with a reply and a next state.  Two states that a bisimulation relates
give the same replies to every list of inputs; an invariant that every step preserves holds after
every list of inputs.  A reference follows a run step by step, and stays related to its states for as
long as every step meets the condition under which the relation is kept.
-/

namespace Lib

/-- A deterministic machine over states `σ` with inputs `ι` and replies `ο`. -/
structure Machine (σ ι ο : Type) where
  step : σ → ι → σ × ο

namespace Machine

variable {σ ι ο : Type} (m : Machine σ ι ο)

/-- The state after a list of inputs, with the replies in order. -/
def run (s : σ) : List ι → σ × List ο
  | [] => (s, [])
  | i :: is =>
      let r := m.step s i
      let rest := run r.1 is
      (rest.1, r.2 :: rest.2)

def replies (s : σ) (is : List ι) : List ο :=
  (m.run s is).2

@[simp] theorem replies_nil (s : σ) : m.replies s [] = [] := rfl

@[simp] theorem replies_cons (s : σ) (i : ι) (is : List ι) :
    m.replies s (i :: is) = (m.step s i).2 :: m.replies (m.step s i).1 is := rfl

/-! ## Runs -/

/-- The state after a list of inputs. -/
def after (s : σ) (is : List ι) : σ :=
  (m.run s is).1

@[simp] theorem after_nil (s : σ) : m.after s [] = s := rfl

@[simp] theorem after_cons (s : σ) (i : ι) (is : List ι) :
    m.after s (i :: is) = m.after (m.step s i).1 is := rfl

theorem after_append (s : σ) (is js : List ι) :
    m.after s (is ++ js) = m.after (m.after s is) js := by
  induction is generalizing s with
  | nil => rfl
  | cons i is ih => exact ih (m.step s i).1

/-- The steps of a run: each input with the state it meets. -/
def steps (s : σ) : List ι → List (σ × ι)
  | [] => []
  | i :: is => (s, i) :: steps (m.step s i).1 is

theorem mem_of_mem_steps {s : σ} {is : List ι} {p : σ × ι} (h : p ∈ m.steps s is) : p.2 ∈ is := by
  induction is generalizing s with
  | nil => cases h
  | cons i is ih =>
      rcases List.mem_cons.1 h with rfl | h
      · exact List.mem_cons_self
      · exact List.mem_cons_of_mem i (ih h)

theorem steps_append (s : σ) (is js : List ι) :
    m.steps s (is ++ js) = m.steps s is ++ m.steps (m.after s is) js := by
  induction is generalizing s with
  | nil => rfl
  | cons i is ih => exact congrArg ((s, i) :: ·) (ih (m.step s i).1)

/-! ## Cells -/

/-- The last value that a run writes to a cell, where `w` says what a step writes to it. -/
def lastWrite {α : Type} (w : σ → ι → Option α) (s : σ) (is : List ι) : Option α :=
  (m.steps s is).reverse.findSome? fun p => w p.1 p.2

theorem lastWrite_append {α : Type} (w : σ → ι → Option α) (s : σ) (is js : List ι) :
    m.lastWrite w s (is ++ js) =
      (m.lastWrite w (m.after s is) js).or (m.lastWrite w s is) := by
  simp only [lastWrite, steps_append, List.reverse_append, List.findSome?_append]

theorem lastWrite_cons {α : Type} (w : σ → ι → Option α) (s : σ) (i : ι) (is : List ι) :
    m.lastWrite w s (i :: is) = (m.lastWrite w (m.step s i).1 is).or (w s i) := by
  have hone : m.lastWrite w s [i] = w s i := by simp [lastWrite, steps]
  have happend := m.lastWrite_append w s [i] is
  rw [hone] at happend
  exact happend

/-- Nothing is written when no step writes. -/
theorem lastWrite_eq_none {α : Type} {w : σ → ι → Option α} {s : σ} {is : List ι}
    (h : ∀ p ∈ m.steps s is, w p.1 p.2 = none) : m.lastWrite w s is = none := by
  refine List.findSome?_eq_none_iff.2 ?_
  intro p hp
  exact h p (List.mem_reverse.1 hp)

variable {m}

/-- What every step preserves, every run preserves. -/
theorem after_preserves {P : σ → Prop} (hstep : ∀ s i, P s → P (m.step s i).1) {s : σ} (h : P s)
    (is : List ι) : P (m.after s is) := by
  induction is generalizing s with
  | nil => exact h
  | cons i is ih => exact ih (hstep s i h)

/-- What only certain steps establish, and no step undoes, holds after a run exactly when it held
before or one of those steps was taken. -/
theorem after_iff {P : σ → Prop} {Q : σ → ι → Prop}
    (hstep : ∀ s i, P (m.step s i).1 ↔ P s ∨ Q s i) (s : σ) (is : List ι) :
    P (m.after s is) ↔ P s ∨ ∃ p ∈ m.steps s is, Q p.1 p.2 := by
  induction is generalizing s with
  | nil => simp [steps]
  | cons i is ih => simp only [after_cons, ih, hstep, steps, List.exists_mem_cons_iff, or_assoc]

/-- After a run a cell holds the last value written to it, or else the value it had. -/
theorem cell_after {α : Type} {g : σ → Option α} {w : σ → ι → Option α}
    (hstep : ∀ s i, g (m.step s i).1 = (w s i).or (g s)) (s : σ) (is : List ι) :
    g (m.after s is) = (m.lastWrite w s is).or (g s) := by
  induction is generalizing s with
  | nil => rfl
  | cons i is ih => rw [after_cons, ih, hstep, lastWrite_cons, Option.or_assoc]

/-! ## References -/

variable (m) in
/-- A reference that follows a run; each step changes it, and may look at the state it meets. -/
def follow {τ : Type} (f : τ → σ → ι → τ) (t : τ) (s : σ) (is : List ι) : τ :=
  (m.steps s is).foldl (fun t p => f t p.1 p.2) t

@[simp] theorem follow_nil {τ : Type} (f : τ → σ → ι → τ) (t : τ) (s : σ) :
    m.follow f t s [] = t := rfl

theorem after_concat (s : σ) (is : List ι) (i : ι) :
    m.after s (is ++ [i]) = (m.step (m.after s is) i).1 :=
  after_append m s is [i]

theorem follow_concat {τ : Type} (f : τ → σ → ι → τ) (t : τ) (s : σ) (is : List ι) (i : ι) :
    m.follow f t s (is ++ [i]) = f (m.follow f t s is) (m.after s is) i := by
  simp [follow, steps_append, steps]

/-- Where a step keeps a state and its reference related exactly under a condition, they are related
after every part of a run exactly when every step of it meets the condition. -/
theorem related_iff {τ : Type} {f : τ → σ → ι → τ} {R : σ → τ → Prop} {Q : σ → ι → Prop}
    (hstep : ∀ s t i, R s t → (R (m.step s i).1 (f t s i) ↔ Q s i)) {s : σ} {t : τ} (h : R s t)
    (is : List ι) :
    (∀ pre post, is = pre ++ post → R (m.after s pre) (m.follow f t s pre)) ↔
      ∀ pre i post, is = pre ++ i :: post → Q (m.after s pre) i := by
  constructor
  · intro hrelated pre i post his
    have hbefore := hrelated pre (i :: post) his
    have hbehind := hrelated (pre ++ [i]) post (by simp [his])
    rw [after_concat, follow_concat] at hbehind
    exact (hstep _ _ i hbefore).1 hbehind
  · intro hmet pre
    -- Induction over the part of the run, from its end.
    induction pre using List.reverseRecOn with
    | nil =>
        intro _ _
        exact h
    | append_singleton pre i ih =>
        intro post his
        have hsplit : is = pre ++ i :: post := by simp [his]
        rw [after_concat, follow_concat]
        exact (hstep _ _ i (ih (i :: post) hsplit)).2 (hmet pre i post hsplit)

/-! ## Bisimulations -/

variable (m) in
/-- A relation that steps preserve and that replies do not tell apart. -/
structure Bisimulation (R : σ → σ → Prop) : Prop where
  reply : ∀ s t i, R s t → (m.step s i).2 = (m.step t i).2
  next : ∀ s t i, R s t → R (m.step s i).1 (m.step t i).1

/-- Related states reply alike for ever. -/
theorem Bisimulation.replies_eq {R : σ → σ → Prop} (h : m.Bisimulation R) {s t : σ} (hst : R s t)
    (is : List ι) : m.replies s is = m.replies t is := by
  induction is generalizing s t with
  | nil => rfl
  | cons i is ih =>
      have hreply := h.reply s t i hst
      have hrest := ih (h.next s t i hst)
      simp [hreply, hrest]

/-! ## Machines that draw choices -/

/-- A machine that draws a choice for each input can reply so. -/
def CanReply {χ : Type} (m : Machine σ (ι × χ) ο) (s : σ) (is : List ι) (os : List ο) : Prop :=
  ∃ draws, draws.map Prod.fst = is ∧ m.replies s draws = os

/-- Related states can give the same replies, whatever is drawn for each of them. -/
theorem Bisimulation.canReply_iff {χ : Type} {m : Machine σ (ι × χ) ο} {R : σ → σ → Prop}
    (h : m.Bisimulation R) {s t : σ} (hst : R s t) (is : List ι) (os : List ο) :
    m.CanReply s is os ↔ m.CanReply t is os := by
  constructor
  · rintro ⟨draws, his, hos⟩
    exact ⟨draws, his, (h.replies_eq hst draws).symm.trans hos⟩
  · rintro ⟨draws, his, hos⟩
    exact ⟨draws, his, (h.replies_eq hst draws).trans hos⟩

/-- Where no choice that is drawn matters to the step it is drawn for, all draws give one run. -/
theorem run_eq_of_settled {χ : Type} {m : Machine σ (ι × χ) ο} {Q : σ → ι → Prop}
    (hsettled : ∀ s i c c', Q s i → m.step s (i, c) = m.step s (i, c')) {s : σ}
    {draws draws' : List (ι × χ)} (hsame : draws.map Prod.fst = draws'.map Prod.fst)
    (h : ∀ p ∈ m.steps s draws, Q p.1 p.2.1) : m.run s draws = m.run s draws' := by
  induction draws generalizing s draws' with
  | nil =>
      cases draws' with
      | nil => rfl
      | cons d draws' => cases hsame
  | cons d draws ih =>
      cases draws' with
      | nil => cases hsame
      | cons d' draws' =>
          rcases d with ⟨i, c⟩
          rcases d' with ⟨i', c'⟩
          rcases List.cons.inj hsame with ⟨rfl, hrest⟩
          have hstep : m.step s (i, c) = m.step s (i, c') :=
            hsettled s i c c' (h _ List.mem_cons_self)
          have htail := ih hrest fun p hp => h p (List.mem_cons_of_mem _ hp)
          simp only [run, ← hstep, htail]

end Machine
end Lib
