import Quasar.Lib.Machine

/-!
# Pool — any number of machines of one kind

A pool makes machines, steps them and drops them, each named by the position at which it was made.
As long as no machine is stepped after it was dropped, each of them replies as if it were alone.
-/

namespace Lib

/-- What is done with a pool whose machines take inputs `ι`. -/
inductive PoolInput (ι : Type)
  | create
  | call (i : ℕ) (input : ι)
  | free (i : ℕ)

namespace PoolInput

variable {ι : Type}

/-- The input of one machine. -/
def on (i : ℕ) : PoolInput ι → Option ι
  | .call j input => if j = i then some input else none
  | _ => none

/-- A machine is stepped as long as it is there; what is dropped was made, at least. -/
def Allowed {σ : Type} (slots : List (Option σ)) : PoolInput ι → Prop
  | .create => True
  | .call i _ => ∃ s, slots[i]? = some (some s)
  | .free i => ∃ slot, slots[i]? = some slot

end PoolInput

namespace Machine

variable {σ ι ο : Type}

/-- Machines in the order in which they were made, all from one state; those that were dropped are
absent. -/
def pool (m : Machine σ ι ο) (new : σ) : Machine (List (Option σ)) (PoolInput ι) (Option ο) :=
  { step := fun slots input =>
      match input with
      | .create => (slots ++ [some new], none)
      | .call i input =>
          match slots[i]? with
          | some (some s) => (slots.set i (some (m.step s input).1), some (m.step s input).2)
          | _ => (slots, none)
      | .free i => (slots.set i none, none) }

/-- Every step of the run is allowed. -/
def Orderly (m : Machine σ ι ο) (new : σ) (slots : List (Option σ)) (inputs : List (PoolInput ι)) :
    Prop :=
  ∀ p ∈ (m.pool new).steps slots inputs, p.2.Allowed p.1

/-- What a run replies to the inputs of one machine. -/
def repliesOn (i : ℕ) : List (PoolInput ι) → List (Option ο) → List ο
  | input :: inputs, reply :: replies =>
      match input.on i with
      | some _ => reply.toList ++ repliesOn i inputs replies
      | none => repliesOn i inputs replies
  | _, _ => []

/-- The state of a machine that is there, or in which it will be made. -/
def stateOf (new : σ) (slots : List (Option σ)) (i : ℕ) : σ :=
  (slots[i]?.join).getD new

variable {m : Machine σ ι ο} {new s : σ} {slots : List (Option σ)} {inputs : List (PoolInput ι)}
  {i j : ℕ}

theorem pool_call (h : slots[i]? = some (some s)) (input : ι) :
    (m.pool new).step slots (.call i input) =
      (slots.set i (some (m.step s input).1), some (m.step s input).2) := by
  simp only [pool, h]

theorem stateOf_set_of_ne (h : j ≠ i) (slot : Option σ) :
    stateOf new (slots.set j slot) i = stateOf new slots i := by
  rw [stateOf, List.getElem?_set_ne h, stateOf]

/-- A new machine is in the state in which machines are made. -/
theorem stateOf_create (new : σ) (slots : List (Option σ)) (i : ℕ) :
    stateOf new (slots ++ [some new]) i = stateOf new slots i := by
  unfold stateOf
  by_cases hi : i < slots.length
  · rw [List.getElem?_append_left hi]
  · have hle : slots.length ≤ i := Nat.le_of_not_lt hi
    rw [List.getElem?_append_right hle, List.getElem?_eq_none hle]
    cases i - slots.length with
    | zero => rfl
    | succ n => rfl

theorem orderly_cons_iff {input : PoolInput ι} :
    m.Orderly new slots (input :: inputs) ↔
      input.Allowed slots ∧ m.Orderly new ((m.pool new).step slots input).1 inputs :=
  List.forall_mem_cons

/-- What was dropped stays dropped. -/
theorem getElem?_pool_of_none (h : slots[i]? = some none) (input : PoolInput ι) :
    ((m.pool new).step slots input).1[i]? = some none := by
  have hi : i < slots.length := (List.getElem?_eq_some_iff.1 h).1
  cases input with
  | create => exact (List.getElem?_append_left hi).trans h
  | free j =>
      by_cases hj : j = i
      · subst hj
        exact List.getElem?_set_self hi
      · exact (List.getElem?_set_ne hj).trans h
  | call j input =>
      by_cases hj : j = i
      · subst hj
        simp only [pool, h]
      · cases hslot : slots[j]? with
        | none =>
            simp only [pool, hslot]
            exact h
        | some slot =>
            cases slot with
            | none =>
                simp only [pool, hslot]
                exact h
            | some s =>
                rw [pool_call hslot]
                exact (List.getElem?_set_ne hj).trans h

/-- A machine that was dropped takes no inputs any more. -/
theorem on_eq_nil_of_dropped (horderly : m.Orderly new slots inputs) (h : slots[i]? = some none) :
    inputs.filterMap (PoolInput.on i) = [] := by
  induction inputs generalizing slots with
  | nil => rfl
  | cons input inputs ih =>
      rcases orderly_cons_iff.1 horderly with ⟨hallowed, horderly⟩
      have hrest := ih horderly (getElem?_pool_of_none h input)
      have hnone : input.on i = none := by
        cases input with
        | call j input =>
            apply if_neg
            rintro rfl
            rcases hallowed with ⟨s, hs⟩
            cases h.symm.trans hs
        | _ => rfl
      rw [List.filterMap_cons_none hnone, hrest]

/-- Where no inputs of a machine come, nothing is replied to them. -/
theorem repliesOn_eq_nil (h : inputs.filterMap (PoolInput.on i) = []) (replies : List (Option ο)) :
    repliesOn i inputs replies = [] := by
  induction inputs generalizing replies with
  | nil => rfl
  | cons input inputs ih =>
      cases hon : input.on i with
      | some x =>
          rw [List.filterMap_cons_some hon] at h
          cases h
      | none =>
          rw [List.filterMap_cons_none hon] at h
          cases replies with
          | nil => rfl
          | cons reply replies => simp only [repliesOn, hon, ih h]

/-- Each machine replies as if it were alone. -/
theorem repliesOn_pool (h : m.Orderly new slots inputs) (i : ℕ) :
    repliesOn i inputs ((m.pool new).replies slots inputs) =
      m.replies (stateOf new slots i) (inputs.filterMap (PoolInput.on i)) := by
  induction inputs generalizing slots with
  | nil => rfl
  | cons input inputs ih =>
      rcases orderly_cons_iff.1 h with ⟨hallowed, horderly⟩
      rw [replies_cons]
      cases input with
      | create =>
          have hrest := ih horderly
          rw [List.filterMap_cons_none rfl, ← stateOf_create]
          exact hrest
      | free j =>
          rw [List.filterMap_cons_none rfl]
          by_cases hj : j = i
          · -- Nothing is asked of it from here on.
            subst hj
            rcases hallowed with ⟨slot, hslot⟩
            have hlt : j < slots.length := (List.getElem?_eq_some_iff.1 hslot).1
            have hnil := on_eq_nil_of_dropped horderly (List.getElem?_set_self hlt)
            rw [hnil]
            exact repliesOn_eq_nil hnil _
          · rw [← stateOf_set_of_ne hj none]
            exact ih horderly
      | call j input =>
          rcases hallowed with ⟨s, hs⟩
          have hstep : (m.pool new).step slots (.call j input) = _ := pool_call hs input
          rw [hstep] at horderly ⊢
          have hrest := ih horderly
          dsimp only at hrest
          by_cases hj : j = i
          · subst hj
            have hlt : j < slots.length := (List.getElem?_eq_some_iff.1 hs).1
            have hstate : stateOf new slots j = s := by rw [stateOf, hs]; rfl
            have hnext : stateOf new (slots.set j (some (m.step s input).1)) j =
                (m.step s input).1 := by
              rw [stateOf, List.getElem?_set_self hlt]
              rfl
            have hon : (PoolInput.call j input).on j = some input := if_pos rfl
            rw [hnext] at hrest
            rw [List.filterMap_cons_some hon, replies_cons, hstate, ← hrest]
            simp only [repliesOn, hon]
            rfl
          · have hon : (PoolInput.call j input).on i = none := if_neg hj
            rw [List.filterMap_cons_none hon, ← stateOf_set_of_ne hj, ← hrest]
            simp only [repliesOn, hon]

end Machine
end Lib
