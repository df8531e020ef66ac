import Mathlib.Data.List.Perm.Basic
import Quasar.Lib.Machine

/-!
# Footprint — machines whose inputs read and write only parts of the state

A state falls into resources, and two states can be the same at some of them only.  Inputs that share
no resource, or only read it, may change places: what matters is the order of inputs that depend on
each other.  Lists of inputs in which these stand in the same order are taken into one another by
swapping neighbours that do not depend on each other.
-/

namespace Lib

/-! ## Orders of the same inputs -/

section Orders

variable {ι : Type} {Depends : ι → ι → Prop} {is js : List ι} {i : ι}

/-- The second list comes from the first one by swaps of neighbours that do not depend on each
other. -/
inductive Reordering (Depends : ι → ι → Prop) : List ι → List ι → Prop
  | nil : Reordering Depends [] []
  | cons (i : ι) {is js : List ι} (h : Reordering Depends is js) :
      Reordering Depends (i :: is) (i :: js)
  | swap (i j : ι) (is : List ι) (h : ¬ Depends i j) :
      Reordering Depends (i :: j :: is) (j :: i :: is)
  | trans {is js ks : List ι} (h : Reordering Depends is js) (h' : Reordering Depends js ks) :
      Reordering Depends is ks

open Classical in
/-- The occurrences of two inputs, in their order. -/
noncomputable def occurrences (i j : ι) (is : List ι) : List ι :=
  is.filter fun k => k = i ∨ k = j

/-- The same inputs, and any two that depend on each other in the same order. -/
structure SameOrder (Depends : ι → ι → Prop) (is js : List ι) : Prop where
  perm : is.Perm js
  occurrences : ∀ i j, Depends i j → Lib.occurrences i j is = Lib.occurrences i j js

theorem occurrences_cons_of_eq {i j k : ι} (h : k = i ∨ k = j) (is : List ι) :
    occurrences i j (k :: is) = k :: occurrences i j is := by
  simp [occurrences, h]

theorem occurrences_cons_of_ne {i j k : ι} (h : ¬ (k = i ∨ k = j)) (is : List ι) :
    occurrences i j (k :: is) = occurrences i j is := by
  simp [occurrences, h]

theorem occurrences_append (i j : ι) (is js : List ι) :
    occurrences i j (is ++ js) = occurrences i j is ++ occurrences i j js :=
  List.filter_append is js

theorem mem_occurrences {i j k : ι} : k ∈ occurrences i j is ↔ k ∈ is ∧ (k = i ∨ k = j) := by
  simp [occurrences]

theorem occurrences_eq_nil {i j : ι} (h : ∀ k ∈ is, ¬ (k = i ∨ k = j)) :
    occurrences i j is = [] := by
  apply List.eq_nil_iff_forall_not_mem.2
  intro k hk
  exact h k (mem_occurrences.1 hk).1 (mem_occurrences.1 hk).2

theorem Reordering.refl (is : List ι) : Reordering Depends is is := by
  induction is with
  | nil => exact Reordering.nil
  | cons i is ih => exact Reordering.cons i ih

/-- An input that depends on nothing before it may come first. -/
theorem Reordering.front (post : List ι) {pre : List ι} (h : ∀ j ∈ pre, ¬ Depends i j) :
    Reordering Depends (i :: (pre ++ post)) (pre ++ i :: post) := by
  induction pre with
  | nil => exact Reordering.refl _
  | cons j pre ih =>
      have hrest := ih fun k hk => h k (List.mem_cons_of_mem j hk)
      -- It is swapped with the neighbour first, and then moved through the rest.
      have hswap := Reordering.swap i j (pre ++ post) (h j List.mem_cons_self)
      exact hswap.trans (hrest.cons j)

/-- A swap of two inputs that do not depend on each other is seen in no order that matters. -/
theorem Reordering.sameOrder (hsymm : ∀ i j, Depends i j → Depends j i)
    (h : Reordering Depends is js) : SameOrder Depends is js := by
  induction h with
  | nil => exact ⟨List.Perm.refl _, fun _ _ _ => rfl⟩
  | cons k _ ih =>
      refine ⟨ih.perm.cons k, ?_⟩
      intro i j hdepends
      by_cases hk : k = i ∨ k = j
      · rw [occurrences_cons_of_eq hk, occurrences_cons_of_eq hk, ih.occurrences i j hdepends]
      · rw [occurrences_cons_of_ne hk, occurrences_cons_of_ne hk, ih.occurrences i j hdepends]
  | swap a b is hindependent =>
      refine ⟨List.Perm.swap b a is, ?_⟩
      intro i j hdepends
      by_cases ha : a = i ∨ a = j
      · by_cases hb : b = i ∨ b = j
        · -- Two different ones would depend on each other.
          have hab : a = b := by
            rcases ha with rfl | rfl
            · rcases hb with rfl | rfl
              · rfl
              · exact absurd hdepends hindependent
            · rcases hb with rfl | rfl
              · exact absurd (hsymm _ _ hdepends) hindependent
              · rfl
          rw [hab]
        · rw [occurrences_cons_of_eq ha, occurrences_cons_of_ne hb, occurrences_cons_of_ne hb,
            occurrences_cons_of_eq ha]
      · by_cases hb : b = i ∨ b = j
        · rw [occurrences_cons_of_ne ha, occurrences_cons_of_eq hb, occurrences_cons_of_eq hb,
            occurrences_cons_of_ne ha]
        · rw [occurrences_cons_of_ne ha, occurrences_cons_of_ne hb, occurrences_cons_of_ne hb,
            occurrences_cons_of_ne ha]
  | trans _ _ ih ih' =>
      exact ⟨ih.perm.trans ih'.perm, fun i j h => (ih.occurrences i j h).trans (ih'.occurrences i j h)⟩

/-- The first occurrence of what comes first in another list depends on nothing before it. -/
theorem SameOrder.independent {pre post : List ι} (h : SameOrder Depends (i :: is) (pre ++ i :: post))
    (hfirst : i ∉ pre) : ∀ j ∈ pre, ¬ Depends i j := by
  intro j hj hdepends
  have hsame := h.occurrences i j hdepends
  rw [occurrences_cons_of_eq (Or.inl rfl), occurrences_append] at hsame
  cases hpre : Lib.occurrences i j pre with
  | nil =>
      have hmem : j ∈ Lib.occurrences i j pre := mem_occurrences.2 ⟨hj, Or.inr rfl⟩
      rw [hpre] at hmem
      cases hmem
  | cons k ks =>
      -- The first of the two in the other list is not `i`.
      rw [hpre] at hsame
      have hk : k ∈ Lib.occurrences i j pre := by
        rw [hpre]
        exact List.mem_cons_self
      have hik : i = k := (List.cons.inj hsame).1
      exact hfirst (hik ▸ (mem_occurrences.1 hk).1)

/-- Without its first input the order is still the same. -/
theorem SameOrder.tail (hsymm : ∀ i j, Depends i j → Depends j i) {pre post : List ι}
    (h : SameOrder Depends (i :: is) (pre ++ i :: post)) (hfirst : i ∉ pre) :
    SameOrder Depends is (pre ++ post) := by
  have hindependent := h.independent hfirst
  refine ⟨(h.perm.trans List.perm_middle).cons_inv, ?_⟩
  intro a b hdepends
  have hsame := h.occurrences a b hdepends
  by_cases hi : i = a ∨ i = b
  · -- Nothing before `i` is one of the two.
    have hpre : Lib.occurrences a b pre = [] := by
      apply occurrences_eq_nil
      intro k hk hab
      rcases hi with rfl | rfl
      · rcases hab with rfl | rfl
        · exact hfirst hk
        · exact hindependent _ hk hdepends
      · rcases hab with rfl | rfl
        · exact hindependent _ hk (hsymm _ _ hdepends)
        · exact hfirst hk
    rw [occurrences_cons_of_eq hi, occurrences_append, hpre, List.nil_append,
      occurrences_cons_of_eq hi] at hsame
    rw [occurrences_append, hpre, List.nil_append]
    exact (List.cons.inj hsame).2
  · rwa [occurrences_cons_of_ne hi, occurrences_append, occurrences_cons_of_ne hi,
      ← occurrences_append] at hsame

theorem SameOrder.reordering (hsymm : ∀ i j, Depends i j → Depends j i)
    (h : SameOrder Depends is js) : Reordering Depends is js := by
  induction is generalizing js with
  | nil =>
      rw [← h.perm.nil_eq]
      exact Reordering.nil
  | cons i is ih =>
      -- What comes first in the one list is moved to the front of the other.
      have hmem : i ∈ js := h.perm.subset List.mem_cons_self
      rcases List.eq_append_cons_of_mem hmem with ⟨pre, post, rfl, hfirst⟩
      have htail := ih (h.tail hsymm hfirst)
      exact (htail.cons i).trans (Reordering.front post (h.independent hfirst))

end Orders

/-! ## Footprints -/

namespace Machine

variable {σ ι ο ρ ν κ : Type} {m : Machine σ ι ο}

/-- One of two inputs writes what the other one reads or writes. -/
def DependsOn (Reads Writes : ι → ρ → Prop) (i j : ι) : Prop :=
  ∃ r, (Writes i r ∧ (Reads j r ∨ Writes j r)) ∨ (Writes j r ∧ Reads i r)

theorem DependsOn.symm {Reads Writes : ι → ρ → Prop} {i j : ι} (h : DependsOn Reads Writes i j) :
    DependsOn Reads Writes j i := by
  rcases h with ⟨r, ⟨hi, hj⟩ | ⟨hj, hi⟩⟩
  · rcases hj with hj | hj
    · exact ⟨r, Or.inr ⟨hi, hj⟩⟩
    · exact ⟨r, Or.inl ⟨hj, Or.inr hi⟩⟩
  · exact ⟨r, Or.inl ⟨hj, Or.inl hi⟩⟩

/-- The resources that an input reads and those that it writes, and what counts in a reply. -/
structure Footprint (m : Machine σ ι ο) (ρ ν : Type) where
  Same : ρ → σ → σ → Prop
  view : ο → ν
  Reads : ι → ρ → Prop
  Writes : ι → ρ → Prop
  same : ∀ r, Equivalence (Same r)
  /-- What an input does not write stays the same. -/
  frame : ∀ s i r, ¬ Writes i r → Same r s (m.step s i).1
  /-- The reply is read off what the input reads. -/
  reply : ∀ s t i, (∀ r, Reads i r → Same r s t) → view (m.step s i).2 = view (m.step t i).2
  /-- So is what it writes, unless it leaves it as it was. -/
  next : ∀ s t i r, (∀ q, Reads i q → Same q s t) → Same r s t →
    Same r (m.step s i).1 (m.step t i).1

namespace Footprint

def Depends (F : Footprint m ρ ν) (i j : ι) : Prop :=
  DependsOn F.Reads F.Writes i j

/-- The same at every resource. -/
def Alike (F : Footprint m ρ ν) (s t : σ) : Prop :=
  ∀ r, F.Same r s t

open Classical in
/-- What a run replies to the inputs of one kind, each time that one comes. -/
noncomputable def repliesTo (F : Footprint m ρ ν) (kind : ι → κ) (k : κ) (s : σ) :
    List ι → List ν
  | [] => []
  | j :: js =>
      let rest := repliesTo F kind k (m.step s j).1 js
      if kind j = k then F.view (m.step s j).2 :: rest else rest

/-- Two runs end the same and reply alike to the inputs of every kind. -/
def AlikeRuns (F : Footprint m ρ ν) (kind : ι → κ) (s : σ) (is : List ι) (t : σ) (js : List ι) :
    Prop :=
  F.Alike (m.after s is) (m.after t js) ∧
    ∀ k, F.repliesTo kind k s is = F.repliesTo kind k t js

variable {F : Footprint m ρ ν} {kind : ι → κ} {i j : ι} {is js : List ι} {s t u : σ}

theorem Alike.refl (s : σ) : F.Alike s s :=
  fun r => (F.same r).refl s

theorem Alike.trans (h : F.Alike s t) (h' : F.Alike t u) : F.Alike s u :=
  fun r => (F.same r).trans (h r) (h' r)

theorem Alike.step (h : F.Alike s t) (i : ι) : F.Alike (m.step s i).1 (m.step t i).1 :=
  fun r => F.next s t i r (fun q _ => h q) (h r)

theorem Alike.reply (h : F.Alike s t) (i : ι) :
    F.view (m.step s i).2 = F.view (m.step t i).2 :=
  F.reply s t i fun r _ => h r

/-- An input finds what it reads as it was before one that it does not depend on. -/
theorem same_of_not_depends (h : ¬ F.Depends i j) (s : σ) :
    ∀ r, F.Reads j r → F.Same r s (m.step s i).1 := by
  intro r hreads
  apply F.frame
  intro hwrites
  exact h ⟨r, Or.inl ⟨hwrites, Or.inl hreads⟩⟩

/-- Inputs that do not depend on each other may change places. -/
theorem alike_swap (h : ¬ F.Depends i j) (s : σ) :
    F.Alike (m.step (m.step s i).1 j).1 (m.step (m.step s j).1 i).1 := by
  have hsymm : ¬ F.Depends j i := fun hji => h hji.symm
  intro r
  by_cases hi : F.Writes i r
  · -- What `i` writes is the same after it and `j`, and `j` neither reads nor writes it.
    have hj : ¬ F.Writes j r := fun hj => h ⟨r, Or.inl ⟨hi, Or.inr hj⟩⟩
    have hleft : F.Same r (m.step s i).1 (m.step (m.step s i).1 j).1 := F.frame _ _ _ hj
    have hright : F.Same r (m.step s i).1 (m.step (m.step s j).1 i).1 :=
      F.next _ _ i r (same_of_not_depends hsymm s) (F.frame _ _ _ hj)
    exact (F.same r).trans ((F.same r).symm hleft) hright
  · -- What `i` does not write is left as `j` leaves it, whichever comes first.
    have hleft : F.Same r (m.step s j).1 (m.step (m.step s i).1 j).1 :=
      F.next _ _ j r (same_of_not_depends h s) (F.frame _ _ _ hi)
    have hright : F.Same r (m.step s j).1 (m.step (m.step s j).1 i).1 := F.frame _ _ _ hi
    exact (F.same r).trans ((F.same r).symm hleft) hright

/-- One input more. -/
theorem AlikeRuns.cons (h : F.AlikeRuns kind (m.step s j).1 is (m.step t j).1 js)
    (hreply : F.view (m.step s j).2 = F.view (m.step t j).2) :
    F.AlikeRuns kind s (j :: is) t (j :: js) := by
  refine ⟨h.1, ?_⟩
  intro k
  simp only [repliesTo, h.2 k, hreply]

/-- From states that are alike, runs over the same inputs are alike. -/
theorem Alike.alikeRuns (h : F.Alike s t) (is : List ι) : F.AlikeRuns kind s is t is := by
  induction is generalizing s t with
  | nil => exact ⟨h, fun k => rfl⟩
  | cons j is ih => exact (ih (h.step j)).cons (h.reply j)

/-- States that are alike reply alike for ever. -/
theorem Alike.replies_eq (h : F.Alike s t) (is : List ι) :
    (m.replies s is).map F.view = (m.replies t is).map F.view := by
  induction is generalizing s t with
  | nil => rfl
  | cons j is ih =>
      rw [replies_cons, replies_cons, List.map_cons, List.map_cons, h.reply j, ih (h.step j)]

/-- Each of two inputs of different kinds that do not depend on each other is replied to as if the
other one had not come before it. -/
theorem alikeRuns_swap (h : F.Alike s t) (hkind : kind i ≠ kind j) (hindependent : ¬ F.Depends i j)
    (is : List ι) : F.AlikeRuns kind s (i :: j :: is) t (j :: i :: is) := by
  have hsymm : ¬ F.Depends j i := fun hji => hindependent hji.symm
  have hend : F.Alike (m.step (m.step s i).1 j).1 (m.step (m.step t j).1 i).1 :=
    (alike_swap hindependent s).trans ((h.step j).step i)
  have hreplyi : F.view (m.step s i).2 = F.view (m.step (m.step t j).1 i).2 :=
    (h.reply i).trans (F.reply _ _ i (same_of_not_depends hsymm t))
  have hreplyj : F.view (m.step (m.step s i).1 j).2 = F.view (m.step t j).2 :=
    (F.reply _ _ j (same_of_not_depends hindependent s)).symm.trans (h.reply j)
  have hrest : F.AlikeRuns kind (m.step (m.step s i).1 j).1 is (m.step (m.step t j).1 i).1 is :=
    hend.alikeRuns is
  rcases hrest with ⟨hafter, hreplies⟩
  refine ⟨hafter, ?_⟩
  intro k
  simp only [repliesTo, hreplies k, hreplyi, hreplyj]
  -- At most one of the two is of the kind that is listened to.
  by_cases hik : kind i = k
  · have hjk : kind j ≠ k := fun hjk => hkind (hik.trans hjk.symm)
    rw [if_pos hik, if_neg hjk, if_neg hjk, if_pos hik]
  · rw [if_neg hik, if_neg hik]

theorem AlikeRuns.trans {ks : List ι} (h : F.AlikeRuns kind s is t js)
    (h' : F.AlikeRuns kind t js u ks) : F.AlikeRuns kind s is u ks :=
  ⟨h.1.trans h'.1, fun k => (h.2 k).trans (h'.2 k)⟩

/-- Where dependence is seen from the kinds, a run can be followed through every reordering of the
kinds of its inputs. -/
theorem exists_alikeRuns_of_reordering {D : κ → κ → Prop}
    (hD : ∀ i j, F.Depends i j → D (kind i) (kind j)) {ks ks' : List κ} (h : Reordering D ks ks')
    {s t : σ} (hst : F.Alike s t) {is : List ι} (his : is.map kind = ks) :
    ∃ js, js.map kind = ks' ∧ F.AlikeRuns kind s is t js := by
  induction h generalizing s t is with
  | nil =>
      rw [List.map_eq_nil_iff] at his
      subst his
      exact ⟨[], rfl, hst.alikeRuns []⟩
  | cons k _ ih =>
      rcases List.map_eq_cons_iff.1 his with ⟨i, is, rfl, rfl, hrest⟩
      rcases ih (hst.step i) hrest with ⟨js, hjs, halike⟩
      exact ⟨i :: js, by rw [List.map_cons, hjs], halike.cons (hst.reply i)⟩
  | swap a b ks hindependent =>
      by_cases hab : a = b
      · -- Two of one kind keep their places.
        subst hab
        exact ⟨is, his, hst.alikeRuns is⟩
      · rcases List.map_eq_cons_iff.1 his with ⟨i, is, rfl, rfl, hrest⟩
        rcases List.map_eq_cons_iff.1 hrest with ⟨j, is, rfl, rfl, rfl⟩
        exact ⟨j :: i :: is, rfl,
          alikeRuns_swap hst hab (fun hdepends => hindependent (hD i j hdepends)) is⟩
  | trans _ _ ih ih' =>
      rcases ih (Alike.refl s) his with ⟨js, hjs, halike⟩
      rcases ih' hst hjs with ⟨ks, hks, halike'⟩
      exact ⟨ks, hks, halike.trans halike'⟩

/-- Runs over kinds of inputs in which those that depend on each other stand in the same order: each
can be followed in the other order. -/
theorem exists_alikeRuns_of_sameOrder {D : κ → κ → Prop}
    (hD : ∀ i j, F.Depends i j → D (kind i) (kind j)) (hsymm : ∀ a b, D a b → D b a)
    {ks ks' : List κ} (h : SameOrder D ks ks') (hst : F.Alike s t) (his : is.map kind = ks) :
    ∃ js, js.map kind = ks' ∧ F.AlikeRuns kind s is t js :=
  exists_alikeRuns_of_reordering hD (h.reordering hsymm) hst his

end Footprint
end Machine
end Lib
