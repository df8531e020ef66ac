import Quasar.Lib.Numbering

/-!
# Drain — logs that leave more calls than they enter

A line that is taken for the end of a call leaves a call that is still running, and every later end
then leaves the call around its own.  `Drains fig e ms` says that the marks `ms` leave `e` of the
calls around them, whatever these are, and that nothing but the figure `fig` is said of them there.
The rows of a log are read part by part with `rowsBefore`, which looks ahead at what follows a part.
-/

namespace Lib
namespace Table

variable {δ φ : Type} {fig : φ} {e e' : ℕ} {d : δ} {ms ms' rest : List (Mark δ φ)}

/-! ## Rows, part by part -/

/-- Label and figure of each call that is entered in the marks, when `rest` follows them. -/
def rowsBefore (rest : List (Mark δ φ)) : List (Mark δ φ) → List (δ × Option φ)
  | [] => []
  | .enter d :: ms => (d, final 0 none (ms ++ rest)) :: rowsBefore rest ms
  | .note _ :: ms => rowsBefore rest ms
  | .leave _ :: ms => rowsBefore rest ms

theorem rowsBefore_append : rowsBefore rest (ms ++ ms') =
    rowsBefore (ms' ++ rest) ms ++ rowsBefore rest ms' := by
  induction ms with
  | nil => rfl
  | cons m ms ih =>
      cases m with
      | enter d => simp [rowsBefore, ih]
      | note u => exact ih
      | leave u => exact ih

theorem getElem?_rowsBefore (ms : List (Mark δ φ)) (k : ℕ) :
    (rowsBefore [] ms)[k]? = entered k ms := by
  induction ms generalizing k with
  | nil => simp [rowsBefore, entered]
  | cons m ms ih =>
      cases m with
      | enter d =>
          cases k with
          | zero => simp [rowsBefore, entered]
          | succ k => exact ih k
      | note u => simpa [rowsBefore, entered] using ih k
      | leave u => simpa [rowsBefore, entered] using ih k

/-- The table of a log has these rows. -/
theorem rows_read {γ : Type} (reader : γ → Option (Mark δ φ)) (lines : List γ) :
    (init.read reader lines).rows = rowsBefore [] (lines.filterMap reader) := by
  refine List.ext_getElem? fun k => ?_
  rw [getElem?_read, getElem?_rowsBefore]

/-! ## Draining the calls around -/

/-- Nothing but `fig` has been said of a call. -/
def Blank (fig : φ) (o : Option φ) : Prop :=
  o = none ∨ o = some fig

def Drains (fig : φ) (e : ℕ) (ms : List (Mark δ φ)) : Prop :=
  ∀ (n : ℕ) (o : Option φ) (rest : List (Mark δ φ)), Blank fig o →
    (n < e → final n o (ms ++ rest) = some fig) ∧
      (e ≤ n → ∃ o', Blank fig o' ∧ final n o (ms ++ rest) = final (n - e) o' rest)

/-- The marks leave the innermost call around them, and say nothing of the others. -/
def Leaves (ms : List (Mark δ φ)) : Prop :=
  ∀ (n : ℕ) (o : Option φ) (rest : List (Mark δ φ)),
    final (n + 1) o (ms ++ rest) = final n o rest

namespace Drains

theorem nil : Drains fig 0 ([] : List (Mark δ φ)) :=
  fun _ o _ ho => ⟨fun h => absurd h (Nat.not_lt_zero _), fun _ => ⟨o, ho, rfl⟩⟩

theorem append (h : Drains fig e ms) (h' : Drains fig e' ms') :
    Drains fig (e + e') (ms ++ ms') := by
  intro n o rest ho
  rw [List.append_assoc]
  -- The first part reaches the call, or it leaves `e` of the calls inside it.
  by_cases hn : n < e
  · exact ⟨fun _ => (h n o _ ho).1 hn, fun hle => by omega⟩
  · obtain ⟨o₁, ho₁, hfinal⟩ := (h n o (ms' ++ rest) ho).2 (Nat.le_of_not_lt hn)
    rw [hfinal]
    obtain ⟨hlt, hle⟩ := h' (n - e) o₁ rest ho₁
    refine ⟨fun hne => hlt (by omega), fun hne => ?_⟩
    rw [← Nat.sub_sub]
    exact hle (by omega)

/-- What is entered takes one of the leaving marks for itself. -/
theorem enter (d : δ) (h : Drains fig (e + 1) ms) : Drains fig e (.enter d :: ms) := by
  intro n o rest ho
  obtain ⟨hlt, hle⟩ := h (n + 1) o rest ho
  refine ⟨fun hne => hlt (by omega), fun hne => ?_⟩
  rw [← Nat.add_sub_add_right n 1 e]
  exact hle (by omega)

theorem note {u : Update φ} (hu : ∀ o, Blank fig o → u o = fig) :
    Drains fig 0 [(.note u : Mark δ φ)] := by
  intro n o rest ho
  refine ⟨fun h => absurd h (Nat.not_lt_zero _), fun _ => ?_⟩
  cases n with
  | zero => exact ⟨some (u o), Or.inr (congrArg some (hu o ho)), rfl⟩
  | succ n => exact ⟨o, ho, rfl⟩

theorem leave {u : Update φ} (hu : ∀ o, Blank fig o → u o = fig) :
    Drains fig 1 [(.leave u : Mark δ φ)] := by
  intro n o rest ho
  cases n with
  | zero => exact ⟨fun _ => congrArg some (hu o ho), fun h => absurd h (by decide)⟩
  | succ n => exact ⟨fun h => absurd h (by omega), fun _ => ⟨o, ho, rfl⟩⟩

/-- A call inside which everything is in order, and which ends in its own leaving mark. -/
theorem call (d : δ) (h : Drains fig 0 ms) (h' : Leaves ms') :
    Drains fig 0 (.enter d :: (ms ++ ms')) := by
  intro n o rest ho
  obtain ⟨o', ho', hfinal⟩ := (h (n + 1) o (ms' ++ rest) ho).2 (Nat.zero_le _)
  refine ⟨fun h => absurd h (Nat.not_lt_zero _), fun _ => ⟨o', ho', ?_⟩⟩
  calc final n o (.enter d :: (ms ++ ms') ++ rest)
      = final (n + 1) o (ms ++ (ms' ++ rest)) := by rw [← List.append_assoc]; rfl
    _ = final (n + 1) o' (ms' ++ rest) := hfinal
    _ = final n o' rest := h' n o' rest

/-- What is said of the call around the marks, from its entry on. -/
theorem final_entry (h : Drains fig e ms) (rest : List (Mark δ φ)) :
    (0 < e → final 0 none (ms ++ rest) = some fig) ∧
      (e = 0 → ∃ o, Blank fig o ∧ final 0 none (ms ++ rest) = final 0 o rest) := by
  obtain ⟨hlt, hle⟩ := h 0 none rest (Or.inl rfl)
  refine ⟨hlt, ?_⟩
  rintro rfl
  exact hle (Nat.le_refl 0)

end Drains

/-! ## Labels -/

/-- The labels of the calls that are entered. -/
def labels : List (Mark δ φ) → List δ
  | [] => []
  | .enter d :: ms => d :: labels ms
  | .note _ :: ms => labels ms
  | .leave _ :: ms => labels ms

theorem labels_append : labels (ms ++ ms') = labels ms ++ labels ms' := by
  induction ms with
  | nil => rfl
  | cons m ms ih =>
      cases m with
      | enter d => exact congrArg (d :: ·) ih
      | note u => exact ih
      | leave u => exact ih

theorem map_fst_rowsBefore : (rowsBefore rest ms).map Prod.fst = labels ms := by
  induction ms with
  | nil => rfl
  | cons m ms ih =>
      cases m with
      | enter d => exact congrArg (d :: ·) ih
      | note u => exact ih
      | leave u => exact ih

/-! ## Exactly when the rows are right -/

/-- The rows of the marks are those of `l`, whatever follows, exactly when `C` holds; their labels are
those of `l` in any case. -/
structure RowsIff (ms : List (Mark δ φ)) (l : List (δ × Option φ)) (C : Prop) : Prop where
  labels : labels ms = l.map Prod.fst
  rows : ∀ rest, rowsBefore rest ms = l ↔ C

namespace RowsIff

variable {l l' : List (δ × Option φ)} {C C' D : Prop}

theorem congr (h : RowsIff ms l C) (hC : C ↔ C') : RowsIff ms l C' :=
  ⟨h.labels, fun rest => (h.rows rest).trans hC⟩

theorem nil : RowsIff ([] : List (Mark δ φ)) [] True :=
  ⟨rfl, fun _ => iff_of_true rfl trivial⟩

theorem append (h : RowsIff ms l C) (h' : RowsIff ms' l' C') :
    RowsIff (ms ++ ms') (l ++ l') (C ∧ C') := by
  refine ⟨by rw [labels_append, h.labels, h'.labels, List.map_append], fun rest => ?_⟩
  rw [rowsBefore_append, ← h.rows (ms' ++ rest), ← h'.rows rest]
  constructor
  · intro heq
    -- Equal labels make equal lengths, so the equation splits.
    have hlength : (rowsBefore (ms' ++ rest) ms).length = l.length := by
      have hmap := congrArg List.length (map_fst_rowsBefore.trans h.labels :
        (rowsBefore (ms' ++ rest) ms).map Prod.fst = l.map Prod.fst)
      simpa using hmap
    exact List.append_inj heq hlength
  · rintro ⟨hl, hl'⟩
    rw [hl, hl']

/-- A call: the row of what is entered, and the rows of what happens inside; the last marks enter
nothing. -/
theorem call {d : δ} {o : Option φ} (h : RowsIff ms l C) (hlast : Table.labels ms' = [])
    (hfigure : C → ∀ rest, (final 0 none ((ms ++ ms') ++ rest) = o ↔ D)) :
    RowsIff (.enter d :: (ms ++ ms')) ((d, o) :: l) (D ∧ C) := by
  have hnone : ∀ rest, rowsBefore rest ms' = [] := by
    intro rest
    exact List.map_eq_nil_iff.1 (map_fst_rowsBefore.trans hlast)
  refine ⟨?_, fun rest => ?_⟩
  · simp only [Table.labels, labels_append, hlast, List.append_nil, h.labels, List.map_cons]
  · simp only [rowsBefore, rowsBefore_append, hnone, List.append_nil, List.cons.injEq,
      Prod.mk.injEq, true_and, h.rows]
    exact and_congr_left fun hC => hfigure hC rest

end RowsIff

/-! ## The open calls -/

/-- The marks leave every call that they enter. -/
def Shrinks (ms : List (Mark δ φ)) : Prop :=
  ∀ t : Table δ φ, (ms.foldl step t).stack <:+ t.stack

namespace Shrinks

theorem nil : Shrinks ([] : List (Mark δ φ)) :=
  fun _ => List.suffix_refl _

theorem append (h : Shrinks ms) (h' : Shrinks ms') : Shrinks (ms ++ ms') := by
  intro t
  rw [List.foldl_append]
  exact (h' _).trans (h t)

theorem suffix_of_eq {l l' : List ℕ} (h : l = l') : l <:+ l' :=
  h ▸ List.suffix_refl l

theorem stack_leave (t : Table δ φ) (u : Update φ) : (t.step (.leave u)).stack = t.stack.tail := by
  obtain ⟨rows, stack⟩ := t
  cases stack with
  | nil => rfl
  | cons i stack => rfl

theorem stack_note (t : Table δ φ) (u : Update φ) : (t.step (.note u)).stack = t.stack := by
  obtain ⟨rows, stack⟩ := t
  cases stack with
  | nil => rfl
  | cons i stack => rfl

theorem note (u : Update φ) : Shrinks [(.note u : Mark δ φ)] := by
  intro t
  exact suffix_of_eq (stack_note t u)

theorem leave (u : Update φ) : Shrinks [(.leave u : Mark δ φ)] := by
  intro t
  rw [List.foldl_cons, List.foldl_nil, stack_leave]
  exact List.tail_suffix _

/-- The last mark leaves the call at the latest. -/
theorem call (d : δ) (h : Shrinks ms) (u : Update φ) :
    Shrinks (.enter d :: (ms ++ [.leave u])) := by
  intro t
  have hinside : (ms.foldl step (t.step (.enter d))).stack <:+ t.rows.length :: t.stack :=
    h (t.step (.enter d))
  rw [List.foldl_cons, List.foldl_append, List.foldl_cons, List.foldl_nil, stack_leave]
  -- The call is still open before the last mark, or it was closed already.
  rcases List.suffix_cons_iff.1 hinside with heq | hsuffix
  · exact suffix_of_eq (by rw [heq]; rfl)
  · exact (List.tail_suffix _).trans hsuffix

theorem stack_read {γ : Type} {reader : γ → Option (Mark δ φ)} {lines : List γ}
    (h : Shrinks (lines.filterMap reader)) : (init.read reader lines).stack = [] :=
  List.suffix_nil.1 (h init)

end Shrinks

end Table
end Lib
