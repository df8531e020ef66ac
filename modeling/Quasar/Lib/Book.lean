import Mathlib.Data.Finmap
import Quasar.Lib.HashMap

/-!
# Book — finite maps and what is posted to them

A book is a finite map without an order.  A posting changes the value under one key, and may look at
nothing else; so what a list of postings leaves under a key depends only on the postings of this key.
-/

namespace Lib

abbrev Book (κ ν : Type) := Finmap (fun _ : κ => ν)

/-- A change of the value under one key, which may be absent before and after. -/
structure Posting (κ ν : Type) where
  key : κ
  change : Option ν → Option ν

namespace Posting

variable {κ ν : Type}

/-- A value that replaces what is there. -/
def put (k : κ) (v : ν) : Posting κ ν :=
  { key := k
    change := fun _ => some v }

/-- A change of a value that is there; nothing is put where there is none. -/
def modify (k : κ) (f : ν → ν) : Posting κ ν :=
  { key := k
    change := fun old => old.map f }

end Posting

namespace Book

variable {κ ν : Type} [DecidableEq κ] {b : Book κ ν} {k : κ}

def post (b : Book κ ν) (p : Posting κ ν) : Book κ ν :=
  match p.change (b.lookup p.key) with
  | some v => b.insert p.key v
  -- A change to no value takes the key out of the book.
  | none => b.erase p.key

def postAll (b : Book κ ν) (ps : List (Posting κ ν)) : Book κ ν :=
  ps.foldl post b

@[simp] theorem postAll_nil (b : Book κ ν) : b.postAll [] = b := rfl

@[simp] theorem postAll_cons (b : Book κ ν) (p : Posting κ ν) (ps : List (Posting κ ν)) :
    b.postAll (p :: ps) = (b.post p).postAll ps := rfl

/-- A posting changes its own key as it says, and no other. -/
theorem lookup_post (b : Book κ ν) (p : Posting κ ν) (k : κ) :
    (b.post p).lookup k = if k = p.key then p.change (b.lookup p.key) else b.lookup k := by
  unfold post
  cases hchange : p.change (b.lookup p.key) with
  | some v =>
      by_cases hk : k = p.key
      · subst hk
        simp
      · simp [hk, Finmap.lookup_insert_of_ne b hk]
  | none =>
      by_cases hk : k = p.key
      · subst hk
        simp
      · simp [hk, Finmap.lookup_erase_ne hk]

theorem lookup_post_self (b : Book κ ν) (p : Posting κ ν) :
    (b.post p).lookup p.key = p.change (b.lookup p.key) :=
  (lookup_post b p p.key).trans (if_pos rfl)

/-- Keys that nothing is posted to keep their values. -/
theorem lookup_postAll_of_not_mem {ps : List (Posting κ ν)} (h : k ∉ ps.map Posting.key) :
    (b.postAll ps).lookup k = b.lookup k := by
  induction ps generalizing b with
  | nil => rfl
  | cons p ps ih =>
      rw [List.map_cons, List.mem_cons, not_or] at h
      rw [postAll_cons, ih h.2, lookup_post, if_neg h.1]

/-- Of the values that are put under a key, the last one stays. -/
theorem lookup_postAll_put (b : Book κ ν) (l : List (κ × ν)) (k : κ) :
    (b.postAll (l.map fun p => Posting.put p.1 p.2)).lookup k =
      (HashMap.lastOf k l).or (b.lookup k) := by
  induction l generalizing b with
  | nil => rfl
  | cons p l ih =>
      have hsplit : HashMap.lastOf k (p :: l) =
          (HashMap.lastOf k l).or (HashMap.lastOf k [p]) := HashMap.lastOf_append k [p] l
      have hone : HashMap.lastOf k [p] = if p.1 = k then some p.2 else none :=
        HashMap.firstOf_cons k p []
      rw [List.map_cons, postAll_cons, ih, lookup_post, hsplit, hone, Option.or_assoc]
      by_cases hk : p.1 = k
      · subst hk
        simp [Posting.put]
      · simp [Posting.put, hk, Ne.symm hk]

/-- The book of a list of pairs. -/
def ofPairs (l : List (κ × ν)) : Book κ ν :=
  postAll ∅ (l.map fun p => Posting.put p.1 p.2)

theorem lookup_ofPairs (l : List (κ × ν)) (k : κ) : (ofPairs l).lookup k = HashMap.lastOf k l := by
  rw [ofPairs, lookup_postAll_put, Finmap.lookup_empty, Option.or_none]

end Book
end Lib
