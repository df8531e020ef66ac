import Mathlib.Algebra.BigOperators.Ring.Finset
import Mathlib.Data.List.AList

/-!
# HashMap — finite maps with an iteration order

A hash map is Mathlib's `AList`: a list of entries with pairwise distinct keys, whose order stands
for the map's iteration order.  On top of `insert` and `lookup` this module has what a store needs
that is filled from lists: insertion of a list of pairs, where the last pair of a key wins, and the
entries as plain pairs.
-/

namespace Lib

abbrev HashMap (κ α : Type) := AList (fun _ : κ => α)

namespace HashMap

variable {κ α : Type}

/-- The entries in iteration order. -/
def toPairs (m : HashMap κ α) : List (κ × α) :=
  m.entries.map fun e => (e.1, e.2)

theorem map_fst_toPairs (m : HashMap κ α) : (toPairs m).map Prod.fst = m.keys := by
  simp [toPairs, AList.keys, List.keys, List.map_map, Function.comp_def]

theorem nodup_keys_toPairs (m : HashMap κ α) : ((toPairs m).map Prod.fst).Nodup := by
  rw [map_fst_toPairs]
  exact m.keys_nodup

variable [DecidableEq κ]

/-- Insert every pair in order, so a later pair replaces an earlier one with the same key. -/
def insertAll (m : HashMap κ α) (ps : List (κ × α)) : HashMap κ α :=
  ps.foldl (fun m p => m.insert p.1 p.2) m

/-- The value of the last pair with key `k`. -/
def lastOf (k : κ) (ps : List (κ × α)) : Option α :=
  (ps.reverse.find? fun p => p.1 = k).map Prod.snd

/-! ## The first item of a key -/

section Find

variable {ι : Type} {key : ι → κ} {k : κ} {items : List ι}

/-- What is found under a key is listed, under that key. -/
theorem of_find_eq_some {x : ι} (h : items.find? (fun x => key x = k) = some x) :
    x ∈ items ∧ key x = k := by
  have hkey : key x = k := by simpa using List.find?_some h
  exact ⟨List.mem_of_find?_eq_some h, hkey⟩

theorem find_eq_none_iff : items.find? (fun x => key x = k) = none ↔ k ∉ items.map key := by
  simp [List.find?_eq_none]

/-- A listed key is found. -/
theorem exists_find_eq_some (h : k ∈ items.map key) :
    ∃ x, items.find? (fun x => key x = k) = some x ∧ x ∈ items ∧ key x = k := by
  cases hfind : items.find? (fun x => key x = k) with
  | none => exact absurd h (find_eq_none_iff.1 hfind)
  | some x => exact ⟨x, rfl, of_find_eq_some hfind⟩

end Find

/-! ## First and last pairs of a key -/

section Pairs

variable {β : Type} {k : κ} {ps qs : List (κ × α)}

/-- The value of the first pair with key `k`. -/
def firstOf (k : κ) (ps : List (κ × α)) : Option α :=
  (ps.find? fun p => p.1 = k).map Prod.snd

theorem lastOf_eq_firstOf_reverse (k : κ) (ps : List (κ × α)) :
    lastOf k ps = firstOf k ps.reverse := rfl

@[simp] theorem firstOf_nil (k : κ) : firstOf k ([] : List (κ × α)) = none := rfl

@[simp] theorem lastOf_nil (k : κ) : lastOf k ([] : List (κ × α)) = none := rfl

theorem firstOf_append (k : κ) (ps qs : List (κ × α)) :
    firstOf k (ps ++ qs) = (firstOf k ps).or (firstOf k qs) := by
  rw [firstOf, List.find?_append]
  cases hfind : ps.find? fun p => p.1 = k with
  | none => simp [firstOf, hfind]
  | some p => simp [firstOf, hfind]

theorem firstOf_cons (k : κ) (p : κ × α) (ps : List (κ × α)) :
    firstOf k (p :: ps) = if p.1 = k then some p.2 else firstOf k ps := by
  by_cases h : p.1 = k
  · simp [firstOf, h]
  · simp [firstOf, h]

/-- Lists with the same keys, and the same entries under one of them. -/
theorem firstOf_congr_of_getElem? (hkeys : qs.map Prod.fst = ps.map Prod.fst)
    (h : ∀ (i : ℕ) (p : κ × α), ps[i]? = some p → p.1 = k → qs[i]? = some p) :
    firstOf k qs = firstOf k ps := by
  induction ps generalizing qs with
  | nil => rw [List.map_eq_nil_iff.1 hkeys]
  | cons p ps ih =>
      rcases List.map_eq_cons_iff.1 hkeys with ⟨q, qs, rfl, hq, hrest⟩
      have htail := ih hrest fun i p' hp' hk => h (i + 1) p' hp' hk
      by_cases hk : p.1 = k
      · cases h 0 p rfl hk
        simp only [firstOf_cons, hk, if_true]
      · have hk' : ¬ q.1 = k := fun heq => hk (hq.symm.trans heq)
        simp only [firstOf_cons, hk, hk', if_false, htail]

theorem lastOf_append (k : κ) (ps qs : List (κ × α)) :
    lastOf k (ps ++ qs) = (lastOf k qs).or (lastOf k ps) := by
  simp only [lastOf_eq_firstOf_reverse, List.reverse_append, firstOf_append]

theorem firstOf_eq_none_iff : firstOf k ps = none ↔ k ∉ ps.map Prod.fst := by
  rw [firstOf, Option.map_eq_none_iff]
  exact find_eq_none_iff

theorem isSome_firstOf_iff : (firstOf k ps).isSome ↔ k ∈ ps.map Prod.fst := by
  rw [← not_iff_not, ← firstOf_eq_none_iff]
  simp

theorem lastOf_eq_none_iff : lastOf k ps = none ↔ k ∉ ps.map Prod.fst := by
  rw [lastOf_eq_firstOf_reverse, firstOf_eq_none_iff, List.map_reverse, List.mem_reverse]

theorem mem_of_firstOf {v : α} (h : firstOf k ps = some v) : (k, v) ∈ ps := by
  rcases Option.map_eq_some_iff.1 h with ⟨p, hp, rfl⟩
  have hfound : p ∈ ps ∧ p.1 = k := of_find_eq_some hp
  rcases hfound with ⟨hmem, rfl⟩
  exact hmem

theorem mem_of_lastOf {v : α} (h : lastOf k ps = some v) : (k, v) ∈ ps :=
  List.mem_reverse.1 (mem_of_firstOf h)

/-- Replacing values key by key. -/
theorem firstOf_map (f : κ → α → β) (k : κ) (ps : List (κ × α)) :
    firstOf k (ps.map fun p => (p.1, f p.1 p.2)) = (firstOf k ps).map (f k) := by
  induction ps with
  | nil => rfl
  | cons p ps ih =>
      by_cases h : p.1 = k
      · simp [firstOf_cons, h]
      · simpa [firstOf_cons, h] using ih

theorem lastOf_map (f : κ → α → β) (k : κ) (ps : List (κ × α)) :
    lastOf k (ps.map fun p => (p.1, f p.1 p.2)) = (lastOf k ps).map (f k) := by
  simp only [lastOf_eq_firstOf_reverse, ← List.map_reverse, firstOf_map]

/-- Where each key has one pair, the first pair of a key is the only one. -/
theorem firstOf_eq_some_iff_of_nodup (h : (ps.map Prod.fst).Nodup) {v : α} :
    firstOf k ps = some v ↔ (k, v) ∈ ps := by
  refine ⟨mem_of_firstOf, ?_⟩
  intro hmem
  have hlisted : k ∈ ps.map Prod.fst := List.mem_map.2 ⟨(k, v), hmem, rfl⟩
  rcases Option.isSome_iff_exists.1 (isSome_firstOf_iff.2 hlisted) with ⟨w, hw⟩
  -- Both pairs have the key, so they are one pair.
  have hpair : (k, w) = (k, v) := List.inj_on_of_nodup_map h (mem_of_firstOf hw) hmem rfl
  cases hpair
  exact hw

theorem firstOf_perm (h : (ps.map Prod.fst).Nodup) (hperm : ps.Perm qs) (k : κ) :
    firstOf k qs = firstOf k ps := by
  have h' : (qs.map Prod.fst).Nodup := (hperm.map Prod.fst).nodup_iff.1 h
  refine Option.ext fun v => ?_
  rw [firstOf_eq_some_iff_of_nodup h', firstOf_eq_some_iff_of_nodup h]
  exact hperm.mem_iff.symm

theorem lastOf_eq_firstOf_of_nodup (h : (ps.map Prod.fst).Nodup) (k : κ) :
    lastOf k ps = firstOf k ps :=
  firstOf_perm h (List.reverse_perm ps).symm k

/-- Pairs whose keys are sorted out are not found. -/
theorem firstOf_filter (keep : κ → Bool) (k : κ) (ps : List (κ × α)) :
    firstOf k (ps.filter fun p => keep p.1) = if keep k then firstOf k ps else none := by
  induction ps with
  | nil => simp
  | cons p ps ih =>
      cases hp : keep p.1 with
      | true =>
          by_cases h : p.1 = k
          · subst h
            simp [hp, firstOf_cons]
          · simpa [hp, firstOf_cons, h] using ih
      | false =>
          by_cases h : p.1 = k
          · subst h
            simpa [hp] using ih
          · simpa [hp, firstOf_cons, h] using ih

theorem lastOf_filter (keep : κ → Bool) (k : κ) (ps : List (κ × α)) :
    lastOf k (ps.filter fun p => keep p.1) = if keep k then lastOf k ps else none := by
  simp only [lastOf_eq_firstOf_reverse, ← List.filter_reverse, firstOf_filter]

end Pairs

/-! ## Entries -/

theorem mem_toPairs_iff {m : HashMap κ α} {k : κ} {v : α} :
    (k, v) ∈ toPairs m ↔ m.lookup k = some v := by
  have hlookup : m.lookup k = some v ↔ (⟨k, v⟩ : Sigma fun _ : κ => α) ∈ m.entries := by
    simpa using (AList.mem_lookup_iff (s := m) (a := k) (b := v))
  rw [hlookup]
  constructor
  · intro h
    rcases List.mem_map.1 h with ⟨e, he, heq⟩
    rcases e with ⟨k', v'⟩
    cases heq
    exact he
  · intro h
    exact List.mem_map.2 ⟨⟨k, v⟩, h, rfl⟩

theorem firstOf_toPairs (m : HashMap κ α) (k : κ) : firstOf k (toPairs m) = m.lookup k := by
  refine Option.ext fun v => ?_
  rw [firstOf_eq_some_iff_of_nodup (nodup_keys_toPairs m)]
  exact mem_toPairs_iff

/-! ## Insertion of a list -/

@[simp] theorem insertAll_nil (m : HashMap κ α) : insertAll m [] = m := rfl

@[simp] theorem insertAll_cons (m : HashMap κ α) (p : κ × α) (ps : List (κ × α)) :
    insertAll m (p :: ps) = insertAll (m.insert p.1 p.2) ps := rfl

theorem insertAll_append (m : HashMap κ α) (ps qs : List (κ × α)) :
    insertAll m (ps ++ qs) = insertAll (insertAll m ps) qs :=
  List.foldl_append

/-- Filling a map group by group inserts the groups one after another. -/
theorem foldl_insertAll {ι : Type} (f : ι → List (κ × α)) (m : HashMap κ α) (is : List ι) :
    is.foldl (fun m i => insertAll m (f i)) m = insertAll m (is.flatMap f) := by
  induction is generalizing m with
  | nil => rfl
  | cons i is ih =>
      have hrest := ih (insertAll m (f i))
      simpa only [List.foldl_cons, List.flatMap_cons, insertAll_append] using hrest

theorem lookup_insert_eq (m : HashMap κ α) (k k' : κ) (v : α) :
    (m.insert k' v).lookup k = if k' = k then some v else m.lookup k := by
  by_cases h : k' = k
  · subst h
    simp
  · have hne : k ≠ k' := fun h' => h h'.symm
    simp [h, AList.lookup_insert_ne hne]

theorem lastOf_cons (k : κ) (p : κ × α) (ps : List (κ × α)) :
    lastOf k (p :: ps) = (lastOf k ps).or (if p.1 = k then some p.2 else none) := by
  unfold lastOf
  rw [List.reverse_cons, List.find?_append]
  cases hfind : ps.reverse.find? (fun q => decide (q.1 = k)) with
  | none =>
      by_cases h : p.1 = k
      · simp [h]
      · simp [h]
  | some q => simp

/-- After inserting a list, a key holds its last value in the list, or else its old value. -/
theorem lookup_insertAll (m : HashMap κ α) (ps : List (κ × α)) (k : κ) :
    (insertAll m ps).lookup k = (lastOf k ps).or (m.lookup k) := by
  induction ps generalizing m with
  | nil => simp [lastOf]
  | cons p ps ih =>
      rw [insertAll_cons, ih, lookup_insert_eq, lastOf_cons, Option.or_assoc]
      by_cases h : p.1 = k
      · simp [h]
      · simp [h]

/-- A listed key has a last value, and that value is listed under it. -/
theorem exists_lastOf {k : κ} {ps : List (κ × α)} (hmem : k ∈ ps.map Prod.fst) :
    ∃ v, lastOf k ps = some v ∧ (k, v) ∈ ps := by
  have hreverse : k ∈ ps.reverse.map Prod.fst := by
    simpa only [List.map_reverse, List.mem_reverse] using hmem
  rcases exists_find_eq_some hreverse with ⟨p, hfind, hp, rfl⟩
  refine ⟨p.2, ?_, List.mem_reverse.1 hp⟩
  simp only [lastOf, hfind, Option.map_some]

/-- When all pairs of a listed key agree, the last one holds the common value. -/
theorem lastOf_eq_some {k : κ} {v : α} {ps : List (κ × α)} (hmem : k ∈ ps.map Prod.fst)
    (hall : ∀ p ∈ ps, p.1 = k → p.2 = v) : lastOf k ps = some v := by
  rcases exists_lastOf hmem with ⟨w, hlast, hw⟩
  rw [hlast]
  exact congrArg some (hall _ hw rfl)

theorem mem_insertAll_iff {m : HashMap κ α} {ps : List (κ × α)} {k : κ} :
    k ∈ insertAll m ps ↔ k ∈ ps.map Prod.fst ∨ k ∈ m := by
  induction ps generalizing m with
  | nil => simp
  | cons p ps ih =>
      rw [insertAll_cons, ih, AList.mem_insert]
      constructor
      · intro h
        rcases h with h | h | h
        · exact Or.inl (by simp [h])
        · exact Or.inl (by simp [h])
        · exact Or.inr h
      · intro h
        rcases h with h | h
        · rcases List.mem_cons.1 (List.map_cons ▸ h) with h | h
          · exact Or.inr (Or.inl h)
          · exact Or.inl h
        · exact Or.inr (Or.inr h)

/-! ## Groups of pairs -/

section Groups

variable {ι : Type} {f : ι → List (κ × α)} {k : κ} {is js : List ι}

theorem lastOf_flatMap_cons (f : ι → List (κ × α)) (k : κ) (i : ι) (is : List ι) :
    lastOf k ((i :: is).flatMap f) = (lastOf k (is.flatMap f)).or (lastOf k (f i)) := by
  rw [List.flatMap_cons, lastOf_append]

/-- The last value of a key is the last one in some group. -/
theorem exists_lastOf_of_flatMap {v : α} (h : lastOf k (is.flatMap f) = some v) :
    ∃ i ∈ is, lastOf k (f i) = some v := by
  induction is with
  | nil => cases h
  | cons i is ih =>
      rw [lastOf_flatMap_cons, Option.or_eq_some_iff] at h
      rcases h with hrest | ⟨_, hhead⟩
      · rcases ih hrest with ⟨j, hj, hlast⟩
        exact ⟨j, List.mem_cons_of_mem i hj, hlast⟩
      · exact ⟨i, List.mem_cons_self, hhead⟩

/-- The values of the last group come last. -/
theorem lastOf_flatMap_concat {v : α} (is : List ι) {i : ι} (h : lastOf k (f i) = some v) :
    lastOf k ((is ++ [i]).flatMap f) = some v := by
  have hlast : lastOf k ([i].flatMap f) = some v := by
    simpa using h
  rw [List.flatMap_append, lastOf_append, hlast, Option.some_or]

/-- Behind the last group that has the key, the key keeps the value it has there. -/
theorem lastOf_flatMap_last {v : α} (pre post : List ι) {i : ι} (h : lastOf k (f i) = some v)
    (hpost : ∀ j ∈ post, lastOf k (f j) = none) :
    lastOf k ((pre ++ i :: post).flatMap f) = some v := by
  have hrest : lastOf k (post.flatMap f) = none := by
    refine Option.eq_none_iff_forall_ne_some.2 ?_
    intro w hw
    obtain ⟨j, hj, hlast⟩ := exists_lastOf_of_flatMap hw
    cases (hpost j hj).symm.trans hlast
  rw [List.flatMap_append, lastOf_append, lastOf_flatMap_cons, hrest, h]
  rfl

/-- A key that has a value has it from the last group with the key. -/
theorem exists_last_group {v : α} (h : lastOf k (is.flatMap f) = some v) :
    ∃ pre i post, is = pre ++ i :: post ∧ lastOf k (f i) = some v ∧
      ∀ j ∈ post, lastOf k (f j) = none := by
  induction is with
  | nil => cases h
  | cons i is ih =>
      cases hrest : lastOf k (is.flatMap f) with
      | some w =>
          rw [lastOf_flatMap_cons, hrest] at h
          cases h
          obtain ⟨pre, j, post, rfl, hlast, hpost⟩ := ih hrest
          exact ⟨i :: pre, j, post, rfl, hlast, hpost⟩
      | none =>
          rw [lastOf_flatMap_cons, hrest] at h
          refine ⟨[], i, is, rfl, h, ?_⟩
          intro j hj
          refine lastOf_eq_none_iff.2 ?_
          intro hmem
          obtain ⟨p, hp, hkey⟩ := List.mem_map.1 hmem
          exact lastOf_eq_none_iff.1 hrest
            (List.mem_map.2 ⟨p, List.mem_flatMap.2 ⟨j, hj, hp⟩, hkey⟩)

/-- The groups agree on the key: all that have it have the same last value of it. -/
def AgreeOn (k : κ) (f : ι → List (κ × α)) (is : List ι) : Prop :=
  ∀ i ∈ is, ∀ j ∈ is, ∀ v w, lastOf k (f i) = some v → lastOf k (f j) = some w → v = w

/-- Where the groups agree, each of them that has the key has its last value. -/
theorem lastOf_flatMap_of_agree (hagree : AgreeOn k f is) {v : α} :
    lastOf k (is.flatMap f) = some v ↔ ∃ i ∈ is, lastOf k (f i) = some v := by
  refine ⟨exists_lastOf_of_flatMap, ?_⟩
  rintro ⟨i, hi, hlast⟩
  have hlisted : k ∈ (is.flatMap f).map Prod.fst :=
    List.mem_map.2 ⟨(k, v), List.mem_flatMap.2 ⟨i, hi, mem_of_lastOf hlast⟩, rfl⟩
  cases hvalue : lastOf k (is.flatMap f) with
  | none => exact absurd hlisted (lastOf_eq_none_iff.1 hvalue)
  | some w =>
      rcases exists_lastOf_of_flatMap hvalue with ⟨j, hj, hw⟩
      exact congrArg some (hagree j hj i hi w v hw hlast)

/-- The order of groups that agree on a key does not matter to it. -/
theorem lastOf_flatMap_congr (hagree : AgreeOn k f is) (hmem : ∀ i, i ∈ js ↔ i ∈ is) :
    lastOf k (js.flatMap f) = lastOf k (is.flatMap f) := by
  have hagree' : AgreeOn k f js := fun i hi j hj => hagree i ((hmem i).1 hi) j ((hmem j).1 hj)
  refine Option.ext fun v => ?_
  rw [lastOf_flatMap_of_agree hagree, lastOf_flatMap_of_agree hagree']
  simp only [hmem]

end Groups

/-! ## Positions -/

/-- The index of a list by key: each key's last position. -/
def positions {ι : Type} (key : ι → κ) (items : List ι) : HashMap κ ℕ :=
  insertAll ∅ (items.map key).zipIdx

/-- What stands at the position that the index has for a key is the key's last item. -/
theorem getElem_positions {ι : Type} (key : ι → κ) (items : List ι) (k : κ) :
    ((positions key items).lookup k).bind (fun i => items[i]?) =
      lastOf k (items.map fun x => (key x, x)) := by
  have hindex : ∀ items : List ι, (lastOf k (items.map key).zipIdx).bind (fun i => items[i]?) =
      lastOf k (items.map fun x => (key x, x)) := by
    intro items
    induction items using List.reverseRecOn with
    | nil => rfl
    | append_singleton items x ih =>
        rw [List.map_append, List.zipIdx_append, lastOf_append, List.map_append, lastOf_append, ← ih]
        by_cases hx : key x = k
        · simp [lastOf, hx]
        · have hindices : lastOf k (([x].map key).zipIdx (0 + (items.map key).length)) = none := by
            simp [lastOf, hx]
          have hitems : lastOf k ([x].map fun x => (key x, x)) = none := by
            simp [lastOf, hx]
          rw [hindices, hitems, Option.none_or, Option.none_or]
          cases hlast : lastOf k (items.map key).zipIdx with
          | none => rfl
          | some i =>
              -- An earlier position points into the front part.
              have hi := List.snd_lt_of_mem_zipIdx (mem_of_lastOf hlast)
              exact List.getElem?_append_left (by simpa using hi)
  have hlookup := lookup_insertAll (∅ : HashMap κ ℕ) (items.map key).zipIdx k
  simp only [AList.lookup_empty, Option.or_none] at hlookup
  rw [positions, hlookup, hindex]

/-! ## Totals -/

/-- The sum of an amount over all entries. -/
def total (f : α → ℕ) (m : HashMap κ α) : ℕ :=
  ((toPairs m).map fun p => f p.2).sum

/-- The keys of a map as a finite set. -/
def keySet (m : HashMap κ α) : Finset κ :=
  m.keys.toFinset

theorem mem_keySet_iff {m : HashMap κ α} {k : κ} : k ∈ keySet m ↔ k ∈ m := by
  simp [keySet, AList.mem_keys]

/-- A total is a sum over keys, since every key has one entry. -/
theorem total_eq_sum (f : α → ℕ) (m : HashMap κ α) :
    total f m = ∑ k ∈ keySet m, (m.lookup k).elim 0 f := by
  have hvalues : (toPairs m).map (fun p => f p.2) =
      m.keys.map fun k => (m.lookup k).elim 0 f := by
    rw [← map_fst_toPairs, List.map_map]
    refine List.map_congr_left ?_
    intro p hp
    have hlookup : m.lookup p.1 = some p.2 := mem_toPairs_iff.1 hp
    simp [hlookup]
  calc
    total f m = (m.keys.map fun k => (m.lookup k).elim 0 f).sum := congrArg List.sum hvalues
    _ = ∑ k ∈ keySet m, (m.lookup k).elim 0 f := (List.sum_toFinset _ m.keys_nodup).symm

/-- An entry that is put into a map takes the place of the one under its key. -/
theorem total_insert (f : α → ℕ) (m : HashMap κ α) (k : κ) (v : α) :
    total f (m.insert k v) + (m.lookup k).elim 0 f = total f m + f v := by
  -- Both totals are taken over the old keys and `k`.
  have hkeys : keySet (m.insert k v) = insert k (keySet m) := by
    ext k'
    rw [Finset.mem_insert, mem_keySet_iff, mem_keySet_iff, AList.mem_insert]
  have hold : total f m = ∑ k' ∈ insert k (keySet m), (m.lookup k').elim 0 f := by
    rw [total_eq_sum]
    apply Finset.sum_subset (Finset.subset_insert k _)
    intro k' _ hnot
    rw [mem_keySet_iff, ← AList.lookup_eq_none] at hnot
    rw [hnot]
    rfl
  have hrest : ∑ k' ∈ (insert k (keySet m)).erase k, ((m.insert k v).lookup k').elim 0 f =
      ∑ k' ∈ (insert k (keySet m)).erase k, (m.lookup k').elim 0 f := by
    apply Finset.sum_congr rfl
    intro k' hk'
    rw [AList.lookup_insert_ne (Finset.ne_of_mem_erase hk')]
  have hmem : k ∈ insert k (keySet m) := Finset.mem_insert_self k _
  rw [hold, total_eq_sum, hkeys, ← Finset.add_sum_erase _ _ hmem, ← Finset.add_sum_erase _ _ hmem,
    hrest, AList.lookup_insert, Option.elim_some]
  omega

end HashMap
end Lib
