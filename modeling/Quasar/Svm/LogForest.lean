import Quasar.Lib.Drain
import Quasar.Svm.Misreading
import Quasar.Svm.Scripted

/-!
# LogForest — when the log of a forest of invocations is read as it was written

A consumed line that is taken for a result line closes its invocation early; the result line behind
it then closes the caller, and so on up to the top.  The figures that are read are those of the
invocations only if nobody on the way up has failed or has any figure but 0.
-/

namespace Quasar
namespace Svm

open Lib

section Calls

variable (name : Nat → String)

/-- The text of the program id. -/
def Invocation.idText (i : Invocation) : String :=
  name i.placement.programAccountIndexInTx

/-- The consumed line is taken for a line of success. -/
def Invocation.ClosedEarly (i : Invocation) : Prop :=
  i.consumed.isSome ∧ EndsLikeMarker (i.idText name) ∧ StartsLikeSuccess (i.idText name)

instance (i : Invocation) : Decidable (i.ClosedEarly name) :=
  inferInstanceAs (Decidable (i.consumed.isSome ∧ EndsLikeMarker (i.idText name) ∧
    StartsLikeSuccess (i.idText name)))

/-- The invocations that are closed early. -/
def closedEarly : Body → ℕ
  | .nil => 0
  | .leaf _ rest => closedEarly rest
  | .node i children rest =>
      (closedEarly children + if i.ClosedEarly name then 1 else 0) + closedEarly rest

/-! ## Forests that are read as they were written -/

/-- A figure other than 0 is neither overlooked nor kept from its invocation by one that is closed
early inside it. -/
def SucceedsClearly (i : Invocation) (body : Body) : Prop :=
  EndsLikeMarker (i.idText name) ∨ 0 < closedEarly name body → i.units = 0

/-- A failure is not taken for a success, nor is it closed by a success inside it. -/
def FailsClearly (i : Invocation) (body : Body) (error : String) : Prop :=
  (EndsLikeMarker (i.idText name) → i.units = 0) ∧ ¬ StartsLikeSuccess (i.idText name) ∧
    ¬ StartsLikeSuccess error ∧ closedEarly name body = 0

def bodyClear : Body → Prop
  | .nil => True
  | .leaf _ rest => bodyClear rest
  | .node i children rest => (SucceedsClearly name i children ∧ bodyClear children) ∧ bodyClear rest

def Failure.Clear : Failure → Prop
  | unresolved _ => True
  | failed i body error => FailsClearly name i body error ∧ bodyClear name body
  | aborted i body cause error =>
      FailsClearly name i body error ∧ bodyClear name body ∧ cause.Clear

def Processed.Clear : Processed → Prop
  | succeeded i body => SucceedsClearly name i body ∧ bodyClear name body
  | failed f => f.Clear name

instance (i : Invocation) (body : Body) : Decidable (SucceedsClearly name i body) :=
  inferInstanceAs (Decidable
    (EndsLikeMarker (i.idText name) ∨ 0 < closedEarly name body → i.units = 0))

instance (i : Invocation) (body : Body) (error : String) :
    Decidable (FailsClearly name i body error) :=
  inferInstanceAs (Decidable ((EndsLikeMarker (i.idText name) → i.units = 0) ∧
    ¬ StartsLikeSuccess (i.idText name) ∧ ¬ StartsLikeSuccess error ∧ closedEarly name body = 0))

instance decidableBodyClear : (body : Body) → Decidable (bodyClear name body)
  | .nil => inferInstanceAs (Decidable True)
  | .leaf _ rest => decidableBodyClear rest
  | .node _ children rest =>
      have := decidableBodyClear children
      have := decidableBodyClear rest
      instDecidableAnd

instance decidableFailureClear : (f : Failure) → Decidable (f.Clear name)
  | .unresolved _ => inferInstanceAs (Decidable True)
  | .failed i body error =>
      inferInstanceAs (Decidable (FailsClearly name i body error ∧ bodyClear name body))
  | .aborted _ _ cause _ =>
      have := decidableFailureClear cause
      instDecidableAnd

instance : (p : Processed) → Decidable (p.Clear name)
  | .succeeded i body =>
      inferInstanceAs (Decidable (SucceedsClearly name i body ∧ bodyClear name body))
  | .failed f => inferInstanceAs (Decidable (f.Clear name))

/-! ## The marks of a call's last lines -/

def consumedMarks (i : Invocation) : List (Mark UInt8 Figures) :=
  (consumedLines name i).filterMap RuntimeLine.parsed

def closingMarks (i : Invocation) (code : UInt64) : List (Mark UInt8 Figures) :=
  consumedMarks name i ++ [.leave (codeUpdate code)]

/-- The consumed line closes the invocation, or it is overlooked, or it says the units. -/
theorem consumedMarks_cases (i : Invocation) :
    (i.ClosedEarly name ∧ consumedMarks name i = [.leave (codeUpdate 0)]) ∨
      (¬ i.ClosedEarly name ∧ (EndsLikeMarker (i.idText name) ∨ i.units = 0) ∧
        consumedMarks name i = []) ∨
      (¬ i.ClosedEarly name ∧ ¬ EndsLikeMarker (i.idText name) ∧
        consumedMarks name i = [.note (unitsUpdate i.units)]) := by
  cases hconsumed : i.consumed with
  | none =>
      have hearly : ¬ i.ClosedEarly name := by simp [Invocation.ClosedEarly, hconsumed]
      have hunits : i.units = 0 := by simp [Invocation.units, hconsumed]
      exact Or.inr (Or.inl ⟨hearly, Or.inr hunits, by simp [consumedMarks, consumedLines, hconsumed]⟩)
  | some c =>
      have hunits : i.units = c.1 := by simp [Invocation.units, hconsumed]
      have hmarks : consumedMarks name i =
          [RuntimeLine.consumed (i.idText name) c.1 c.2].filterMap RuntimeLine.parsed := by
        simp [consumedMarks, consumedLines, hconsumed, Invocation.idText]
      by_cases hend : EndsLikeMarker (i.idText name)
      · by_cases hstart : StartsLikeSuccess (i.idText name)
        · have hearly : i.ClosedEarly name := ⟨by simp [hconsumed], hend, hstart⟩
          exact Or.inl ⟨hearly, by simp [hmarks, RuntimeLine.parsed, hend, hstart]⟩
        · have hearly : ¬ i.ClosedEarly name := fun h => hstart h.2.2
          exact Or.inr (Or.inl ⟨hearly, Or.inl hend,
            by simp [hmarks, RuntimeLine.parsed, hend, hstart]⟩)
      · have hearly : ¬ i.ClosedEarly name := fun h => hend h.2.1
        exact Or.inr (Or.inr ⟨hearly, hend, by simp [hmarks, RuntimeLine.parsed, hend, hunits]⟩)

variable {name}

theorem codeUpdate_of_blank {o : Option Figures} (ho : Table.Blank (0, 0) o) (code : UInt64) :
    codeUpdate code o = (code, 0) := by
  rcases ho with rfl | rfl
  · rfl
  · rfl

theorem unitsUpdate_of_blank {o : Option Figures} (ho : Table.Blank (0, 0) o) (units : UInt64) :
    unitsUpdate units o = (0, units) := by
  rcases ho with rfl | rfl
  · rfl
  · rfl

/-- What the last lines say of their own call, when nothing was said of it before. -/
theorem final_closing (i : Invocation) (code : UInt64) {o : Option Figures}
    (ho : Table.Blank (0, 0) o) (rest : List (Mark UInt8 Figures)) :
    Table.final 0 o (closingMarks name i code ++ rest) = some (if i.ClosedEarly name then (0, 0)
      else (code, if EndsLikeMarker (i.idText name) then 0 else i.units)) := by
  rcases consumedMarks_cases name i with
    ⟨hearly, hmarks⟩ | ⟨hearly, hunits, hmarks⟩ | ⟨hearly, hend, hmarks⟩
  · rw [closingMarks, hmarks, if_pos hearly]
    exact congrArg some (codeUpdate_of_blank ho 0)
  · -- The units are overlooked, or there are none.
    have hzero : (if EndsLikeMarker (i.idText name) then 0 else i.units) = 0 := by
      rcases hunits with hend | hunits
      · exact if_pos hend
      · rw [hunits, ite_self]
    rw [closingMarks, hmarks, if_neg hearly, hzero]
    exact congrArg some (codeUpdate_of_blank ho code)
  · rw [closingMarks, hmarks, if_neg hearly, if_neg hend]
    have hnote : Table.final 0 o ([.note (unitsUpdate i.units)] ++ [.leave (codeUpdate code)] ++
        rest : List (Mark UInt8 Figures)) =
          some (codeUpdate code (some (unitsUpdate i.units o))) := rfl
    rw [hnote, unitsUpdate_of_blank ho]
    rfl

/-- The last lines of a call that is not closed early leave that call and no other. -/
theorem leaves_closing {i : Invocation} (h : ¬ i.ClosedEarly name) (code : UInt64) :
    Table.Leaves (closingMarks name i code) := by
  intro n o rest
  rcases consumedMarks_cases name i with ⟨hearly, -⟩ | ⟨-, -, hmarks⟩ | ⟨-, -, hmarks⟩
  · exact absurd hearly h
  · rw [closingMarks, hmarks]
    rfl
  · rw [closingMarks, hmarks]
    rfl

/-- The last lines of a call without a figure leave it, and the call around it as well when it is
closed early. -/
theorem drains_closing {i : Invocation} (hzero : i.units = 0) :
    Table.Drains (0, 0) ((if i.ClosedEarly name then 1 else 0) + 1) (closingMarks name i 0) := by
  have hleave : Table.Drains (0, 0) 1 ([.leave (codeUpdate 0)] : List (Mark UInt8 Figures)) :=
    Table.Drains.leave fun o ho => codeUpdate_of_blank ho 0
  refine Table.Drains.append ?_ hleave
  rcases consumedMarks_cases name i with
    ⟨hearly, hmarks⟩ | ⟨hearly, -, hmarks⟩ | ⟨hearly, -, hmarks⟩
  · rw [if_pos hearly, hmarks]
    exact hleave
  · rw [if_neg hearly, hmarks]
    exact Table.Drains.nil
  · rw [if_neg hearly, hmarks, hzero]
    exact Table.Drains.note fun o ho => unitsUpdate_of_blank ho 0

theorem labels_closing (i : Invocation) (code : UInt64) :
    Table.labels (closingMarks name i code) = [] := by
  rcases consumedMarks_cases name i with ⟨-, hmarks⟩ | ⟨-, -, hmarks⟩ | ⟨-, -, hmarks⟩
  · rw [closingMarks, hmarks]
    rfl
  · rw [closingMarks, hmarks]
    rfl
  · rw [closingMarks, hmarks]
    rfl

/-! ## The figures of a call -/

section Figures

variable {inside : List (Mark UInt8 Figures)} {body : Body}
  (h : Table.Drains (0, 0) (closedEarly name body) inside)

include h

/-- Either a call inside has closed the call with no figure but 0, or its last lines decide. -/
theorem final_inside (i : Invocation) (code : UInt64) (rest : List (Mark UInt8 Figures)) :
    Table.final 0 none ((inside ++ closingMarks name i code) ++ rest) =
      some (if 0 < closedEarly name body ∨ i.ClosedEarly name then (0, 0)
        else (code, if EndsLikeMarker (i.idText name) then 0 else i.units)) := by
  rw [List.append_assoc]
  obtain ⟨hpos, hzero⟩ := h.final_entry (closingMarks name i code ++ rest)
  by_cases he : 0 < closedEarly name body
  · rw [hpos he, if_pos (Or.inl he)]
  · obtain ⟨o, ho, hfinal⟩ := hzero (Nat.eq_zero_of_not_pos he)
    rw [hfinal, final_closing i code ho]
    simp only [he, false_or]

theorem figure_succeeded (i : Invocation) (rest : List (Mark UInt8 Figures)) :
    Table.final 0 none ((inside ++ closingMarks name i 0) ++ rest) = some (0, i.units) ↔
      SucceedsClearly name i body := by
  rw [final_inside h i 0 rest, SucceedsClearly]
  by_cases hclosed : 0 < closedEarly name body ∨ i.ClosedEarly name
  · -- A success closed the call, so the code is right and the units are lost.
    have hcause : EndsLikeMarker (i.idText name) ∨ 0 < closedEarly name body := by
      rcases hclosed with hpos | hearly
      · exact Or.inr hpos
      · exact Or.inl hearly.2.1
    rw [if_pos hclosed]
    simp [hcause, eq_comm]
  · have he : ¬ 0 < closedEarly name body := fun hpos => hclosed (Or.inl hpos)
    rw [if_neg hclosed]
    by_cases hend : EndsLikeMarker (i.idText name)
    · simp [hend, eq_comm]
    · simp [hend, he]

theorem figure_failed (i : Invocation) (error : String) (rest : List (Mark UInt8 Figures)) :
    Table.final 0 none
        ((inside ++ closingMarks name i (failureCode (i.idText name) error)) ++ rest) =
          some (1, i.units) ↔ FailsClearly name i body error := by
  rw [final_inside h i _ rest, FailsClearly]
  by_cases hclosed : 0 < closedEarly name body ∨ i.ClosedEarly name
  · -- Whoever closes the call here does so with a success.
    rw [if_pos hclosed]
    refine iff_of_false (by simp) ?_
    rintro ⟨-, hstart, -, hnone⟩
    rcases hclosed with hpos | hearly
    · exact Nat.lt_irrefl 0 (hnone ▸ hpos)
    · exact hstart hearly.2.2
  · have he : closedEarly name body = 0 :=
      Nat.eq_zero_of_not_pos fun hpos => hclosed (Or.inl hpos)
    rw [if_neg hclosed, failureCode]
    by_cases hend : EndsLikeMarker (i.idText name)
    · simp [hend, he, eq_comm, and_comm]
    · simp [hend, he]

end Figures

/-! ## The marks of forests -/

def marks (lines : List RuntimeLine) : List (Mark UInt8 Figures) :=
  lines.filterMap RuntimeLine.parsed

theorem marks_append (xs ys : List RuntimeLine) : marks (xs ++ ys) = marks xs ++ marks ys :=
  List.filterMap_append

/-- The marks of a call are that of its first line, those of what happens inside, and those of its
last lines. -/
theorem marks_call (d : ℕ) (i : Invocation) (inside : List RuntimeLine) {last : RuntimeLine}
    {code : UInt64} (hlast : last.parsed = some (.leave (codeUpdate code))) :
    marks (enterLines name d i ++ (inside ++ (closingLines name i ++ [last]))) =
      .enter (UInt8.ofNat d) :: (marks inside ++ closingMarks name i code) := by
  have hend : marks [last] = [.leave (codeUpdate code)] := by simp [marks, hlast]
  have hfirst : marks (enterLines name d i) = [.enter (UInt8.ofNat d)] := rfl
  have hclosing : marks (closingLines name i) = consumedMarks name i :=
    filterMap_closingLines (fun _ => rfl) name i
  simp only [marks_append, hfirst, hend, hclosing, closingMarks]
  rfl

theorem marks_succeeded (d : ℕ) (i : Invocation) (inside : List RuntimeLine) :
    marks (enterLines name d i ++ (inside ++ succeedLines name i)) =
      .enter (UInt8.ofNat d) :: (marks inside ++ closingMarks name i 0) :=
  marks_call d i inside rfl

theorem marks_failed (d : ℕ) (i : Invocation) (inside : List RuntimeLine) (error : String) :
    marks (enterLines name d i ++ (inside ++ failLines name i error)) =
      .enter (UInt8.ofNat d) ::
        (marks inside ++ closingMarks name i (failureCode (i.idText name) error)) :=
  marks_call d i inside rfl

/-- The rows of invocations, from what is logged of them. -/
def loggedRows (started : List Started) : List (UInt8 × Option Figures) :=
  started.filterMap (Started.rowBy fun _ units => units)

theorem loggedRows_append (xs ys : List Started) :
    loggedRows (xs ++ ys) = loggedRows xs ++ loggedRows ys :=
  List.filterMap_append

theorem loggedRows_cons {s : Started} {figures : Figures} (h : s.logged = some figures)
    (started : List Started) :
    loggedRows (s :: started) = (UInt8.ofNat s.depth, some figures) :: loggedRows started := by
  refine List.filterMap_cons_some ?_
  rw [Started.rowBy, h]
  rfl

/-! ### Inside an invocation that succeeds -/

theorem marks_node (d : ℕ) (i : Invocation) (children rest : Body) :
    marks (bodyLines name d (.node i children rest)) =
      (.enter (UInt8.ofNat d) ::
        (marks (bodyLines name (d + 1) children) ++ closingMarks name i 0)) ++
          marks (bodyLines name d rest) := by
  have hlog : bodyLines name d (.node i children rest) =
      (enterLines name d i ++ (bodyLines name (d + 1) children ++ succeedLines name i)) ++
        bodyLines name d rest := by
    simp [bodyLines, Forest.log]
  rw [hlog, marks_append, marks_succeeded]

theorem started_node (d : ℕ) (i : Invocation) (children rest : Body) :
    bodyStarted d (.node i children rest) =
      (Invocation.succeededAt (d, i) :: bodyStarted (d + 1) children) ++ bodyStarted d rest := by
  simp [bodyStarted, Forest.preorder]

/-- A body without any figure that is kept from its invocation leaves as many of the calls around it
as invocations in it are closed early. -/
theorem drains_body {body : Body} (h : bodyClear name body) (d : ℕ) :
    Table.Drains (0, 0) (closedEarly name body) (marks (bodyLines name d body)) := by
  induction body generalizing d with
  | nil => exact Table.Drains.nil
  | leaf text rest ih => exact ih h d
  | node i children rest ihc ihr =>
      obtain ⟨⟨hi, hchildren⟩, hrest⟩ := h
      rw [marks_node]
      refine Table.Drains.append ?_ (ihr hrest d)
      by_cases hclosed : 0 < closedEarly name children ∨ i.ClosedEarly name
      · -- Every call that is closed early leaves its own last mark to the call around it.
        have hzero : i.units = 0 := by
          rcases hclosed with hpos | hearly
          · exact hi (Or.inr hpos)
          · exact hi (Or.inl hearly.2.1)
        refine Table.Drains.enter _ ?_
        rw [Nat.add_assoc]
        exact (ihc hchildren (d + 1)).append (drains_closing hzero)
      · have he : closedEarly name children = 0 :=
          Nat.eq_zero_of_not_pos fun hpos => hclosed (Or.inl hpos)
        have hearly : ¬ i.ClosedEarly name := fun h => hclosed (Or.inr h)
        have hchildren' := ihc hchildren (d + 1)
        rw [he] at hchildren' ⊢
        rw [if_neg hearly]
        exact Table.Drains.call _ hchildren' (leaves_closing hearly 0)

theorem rows_body (body : Body) (d : ℕ) :
    Table.RowsIff (marks (bodyLines name d body)) (loggedRows (bodyStarted d body))
      (bodyClear name body) := by
  induction body generalizing d with
  | nil => exact Table.RowsIff.nil
  | leaf text rest ih => exact ih d
  | node i children rest ihc ihr =>
      rw [marks_node, started_node, loggedRows_append, loggedRows_cons rfl]
      refine Table.RowsIff.append ?_ (ihr d)
      exact (ihc (d + 1)).call (labels_closing i 0) fun hchildren rest' =>
        figure_succeeded (drains_body hchildren (d + 1)) i rest'

/-! ### An invocation that fails -/

theorem FailsClearly.not_closedEarly {i : Invocation} {body : Body} {error : String}
    (h : FailsClearly name i body error) : ¬ i.ClosedEarly name :=
  fun hearly => h.2.1 hearly.2.2

theorem FailsClearly.drains {i : Invocation} {body : Body} {error : String}
    (h : FailsClearly name i body error) (hbody : bodyClear name body) (d : ℕ) :
    Table.Drains (0, 0) 0 (marks (bodyLines name d body)) := by
  have hdrains := drains_body hbody d
  rwa [h.2.2.2] at hdrains

/-- A failure that is read as one leaves no call but its own. -/
theorem drains_failure {f : Failure} (h : f.Clear name) (d : ℕ) :
    Table.Drains (0, 0) 0 (marks (f.lines name d)) := by
  induction f generalizing d with
  | unresolved p => exact Table.Drains.nil
  | failed i body error =>
      obtain ⟨hi, hbody⟩ := h
      rw [Failure.lines, marks_failed]
      exact Table.Drains.call _ (hi.drains hbody (d + 1)) (leaves_closing hi.not_closedEarly _)
  | aborted i body cause error ih =>
      obtain ⟨hi, hbody, hcause⟩ := h
      rw [Failure.lines, marks_failed, marks_append]
      exact Table.Drains.call _ ((hi.drains hbody (d + 1)).append (ih hcause (d + 1)))
        (leaves_closing hi.not_closedEarly _)

theorem rows_failure (f : Failure) (d : ℕ) :
    Table.RowsIff (marks (f.lines name d)) (loggedRows (f.started d)) (f.Clear name) := by
  induction f generalizing d with
  | unresolved p => exact Table.RowsIff.nil
  | failed i body error =>
      rw [Failure.lines, marks_failed]
      exact (rows_body body (d + 1)).call (labels_closing i _) fun hbody rest =>
        figure_failed (drains_body hbody (d + 1)) i error rest
  | aborted i body cause error ih =>
      -- The call that failed inside is the last one that its caller made.
      have hstarted : loggedRows ((Failure.aborted i body cause error).started d) =
          (UInt8.ofNat d, some (1, i.units)) ::
            (loggedRows (bodyStarted (d + 1) body) ++ loggedRows (cause.started (d + 1))) := by
        rw [← loggedRows_append]
        rfl
      rw [Failure.lines, marks_failed, marks_append, hstarted]
      refine ((rows_body body (d + 1)).append (ih (d + 1))).call (labels_closing i _) ?_
      rintro ⟨hbody, hcause⟩ rest
      exact figure_failed ((drains_body hbody (d + 1)).append (drains_failure hcause (d + 1)))
        i error rest

/-! ### Whole logs -/

theorem rows_instruction (p : Processed) :
    Table.RowsIff (marks (p.lines name)) (loggedRows p.started) (p.Clear name) := by
  cases p with
  | failed f => exact rows_failure f 0
  | succeeded i body =>
      rw [Processed.lines, marks_succeeded]
      exact (rows_body body 1).call (labels_closing i 0) fun hbody rest =>
        figure_succeeded (drains_body hbody 1) i rest

theorem rows_forest (ps : List Processed) :
    Table.RowsIff (marks (ps.flatMap (Processed.lines name)))
      (loggedRows (ps.flatMap Processed.started)) (∀ p ∈ ps, p.Clear name) := by
  induction ps with
  | nil => exact Table.RowsIff.nil.congr (by simp)
  | cons p ps ih =>
      rw [List.flatMap_cons, List.flatMap_cons, marks_append, loggedRows_append]
      exact ((rows_instruction p).append ih).congr List.forall_mem_cons.symm

/-! ### The open calls -/

theorem shrinks_consumed (i : Invocation) : Table.Shrinks (consumedMarks name i) := by
  rcases consumedMarks_cases name i with ⟨-, hmarks⟩ | ⟨-, -, hmarks⟩ | ⟨-, -, hmarks⟩
  · rw [hmarks]
    exact Table.Shrinks.leave _
  · rw [hmarks]
    exact Table.Shrinks.nil
  · rw [hmarks]
    exact Table.Shrinks.note _

/-- A call is closed by its last line if it was not before. -/
theorem shrinks_call {inside : List (Mark UInt8 Figures)} (h : Table.Shrinks inside) (d : UInt8)
    (i : Invocation) (code : UInt64) :
    Table.Shrinks (.enter d :: (inside ++ closingMarks name i code)) := by
  rw [closingMarks, ← List.append_assoc]
  exact (h.append (shrinks_consumed i)).call d (codeUpdate code)

theorem shrinks_body (body : Body) (d : ℕ) : Table.Shrinks (marks (bodyLines name d body)) := by
  induction body generalizing d with
  | nil => exact Table.Shrinks.nil
  | leaf text rest ih => exact ih d
  | node i children rest ihc ihr =>
      rw [marks_node]
      exact (shrinks_call (ihc (d + 1)) _ i 0).append (ihr d)

theorem shrinks_failure (f : Failure) (d : ℕ) : Table.Shrinks (marks (f.lines name d)) := by
  induction f generalizing d with
  | unresolved p => exact Table.Shrinks.nil
  | failed i body error =>
      rw [Failure.lines, marks_failed]
      exact shrinks_call (shrinks_body body (d + 1)) _ i _
  | aborted i body cause error ih =>
      rw [Failure.lines, marks_failed, marks_append]
      exact shrinks_call ((shrinks_body body (d + 1)).append (ih (d + 1))) _ i _

theorem shrinks_forest (ps : List Processed) :
    Table.Shrinks (marks (ps.flatMap (Processed.lines name))) := by
  induction ps with
  | nil => exact Table.Shrinks.nil
  | cons p ps ih =>
      rw [List.flatMap_cons, marks_append]
      refine Table.Shrinks.append ?_ ih
      cases p with
      | failed f => exact shrinks_failure f 0
      | succeeded i body =>
          rw [Processed.lines, marks_succeeded]
          exact shrinks_call (shrinks_body body 1) _ i 0

end Calls

/-! ## The parser on the log of a forest -/

/-- What is to be filed under a key: the figures of the invocation that started at its number, when
its depth is the key's. -/
def filed (started : List Started) (key : UInt8 × ℕ) : Option Figures :=
  (started[key.2]?).bind fun s => if UInt8.ofNat s.depth = key.1 then s.logged else none

/-- The parser files the figures of every invocation under its depth and number, and nothing else,
and closes every invocation. -/
def ReadsForest (name : ℕ → String) (ps : List Processed) : Prop :=
  (∀ key, (parseLogResults (logTexts name ps)).lookup key =
    filed (ps.flatMap Processed.started) key) ∧
      (LogParser.init.run (logTexts name ps)).stack = []

theorem tableLookup_loggedRows {started : List Started} (h : ∀ s ∈ started, s.logged.isSome)
    (key : UInt8 × ℕ) : tableLookup (loggedRows started) key = filed started key := by
  rw [loggedRows, tableLookup_rows (loggedFirst_of_logged h), filed]
  simp only [Prod.mk.eta, Option.map_id']

/-- Rows with the same labels that say the same under every key are the same. -/
theorem rows_ext {rows rows' : List (UInt8 × Option Figures)}
    (hlabels : rows.map Prod.fst = rows'.map Prod.fst)
    (h : ∀ key, tableLookup rows key = tableLookup rows' key) : rows = rows' := by
  refine List.ext_getElem? fun k => ?_
  have hlabel : (rows[k]?).map Prod.fst = (rows'[k]?).map Prod.fst := by
    simpa using congrArg (fun l => l[k]?) hlabels
  cases hrow : rows[k]? with
  | none =>
      rw [hrow] at hlabel
      exact (Option.map_eq_none_iff.1 hlabel.symm).symm
  | some r =>
      rw [hrow] at hlabel
      obtain ⟨r', hr', hd⟩ := Option.map_eq_some_iff.1 hlabel.symm
      have hfigure := h (r.1, k)
      simp only [tableLookup, hrow, hr', Option.bind_some, hd, if_true] at hfigure
      rw [hr']
      exact congrArg some (Prod.ext hd.symm hfigure)

/-- The parser reads the log of a forest of invocations as it was written exactly when no figure
other than 0 is overlooked or kept from its invocation by one that is closed early inside it, and no
failure is read as a success or closed by one. -/
theorem readsForest_iff (name : ℕ → String) (ps : List Processed)
    (hlines : ∀ l ∈ ps.flatMap (Processed.lines name), l.Authentic)
    (hlogged : ∀ s ∈ ps.flatMap Processed.started, s.logged.isSome) :
    ReadsForest name ps ↔ ∀ p ∈ ps, p.Clear name := by
  have hread : Table.init.read readLine (logTexts name ps) =
      Table.init.read RuntimeLine.parsed (ps.flatMap (Processed.lines name)) :=
    read_texts (fun l hl => readLine_eq_parsed (hlines l hl)) _
  have hrows := Table.rows_read RuntimeLine.parsed (ps.flatMap (Processed.lines name))
  have hiff : Table.RowsIff _ _ (∀ p ∈ ps, p.Clear name) := rows_forest ps
  -- The stack is empty in any case.
  have hstack : (LogParser.init.run (logTexts name ps)).stack = [] := by
    have hrefines := (LogParser.refines_init.run (logTexts name ps)).stack
    have hempty : (Table.init.read readLine (logTexts name ps)).stack = [] := by
      rw [hread]
      exact Table.Shrinks.stack_read (shrinks_forest ps)
    rw [hempty] at hrefines
    exact List.forall₂_nil_right_iff.1 hrefines
  rw [ReadsForest, and_iff_left hstack, ← hiff.rows []]
  -- The table has as many rows as were started, so it is determined by what is filed.
  constructor
  · intro hlookup
    refine rows_ext (Table.map_fst_rowsBefore.trans hiff.labels) fun key => ?_
    rw [tableLookup_loggedRows hlogged, ← hlookup key, lookup_parseLogResults, hread, hrows]
    rfl
  · intro heq key
    rw [lookup_parseLogResults, hread, hrows, ← tableLookup_loggedRows hlogged, ← heq]
    rfl

/-- A builtin program below a program that succeeds, and then two programs of which the second fails
after a call of its own and aborts the first. -/
theorem readsForest_iff_aborted :
    let name : ℕ → String := fun i =>
      if i = 0 then "5vTnq8ZrWg2pXk4YhLdUeJ7mQcBsRtN3aFwyTokenkeg"
      else "11111111111111111111111111111111"
    let builtin : Invocation := { plainInvocation 1 0 with consumed := none }
    ReadsForest name
      [.succeeded (plainInvocation 0 900) (.node builtin .nil .nil),
        .failed (.aborted (plainInvocation 0 700) (.node builtin .nil .nil)
          (.failed (plainInvocation 1 150) (.node builtin .nil .nil) "custom program error: 0x1")
          "custom program error: 0x1")] := by
  intro name builtin
  exact (readsForest_iff name _ (by decide +kernel) (by decide +kernel)).2 (by decide +kernel)

/-- Texts without a marker are misread: a figure is overlooked where the id ends in `consumed`, and a
failure of a program whose id begins with `success` is read as a success. -/
theorem readsForest_misread :
    let name : ℕ → String := fun i =>
      if i = 0 then "5vTnq8ZrWg2pXk4YhLdUeJ7mQcBsRtN3aFwyconsumed"
      else "success5vTnq8ZrWg2pXk4YhLdUeJ7mQcBsRtN3aFw1"
    let error := "custom program error: 0x1"
    let consumed : List Processed := [.succeeded (plainInvocation 0 5) .nil]
    let failed : List Processed := [.failed (.failed (plainInvocation 1 5) .nil error)]
    (MarkerFree (name 0) ∧ MarkerFree (name 1) ∧ MarkerFree error) ∧
      ((parseLogResults (logTexts name consumed)).lookup (0, 0) = some (0, 0) ∧
        ¬ ReadsForest name consumed) ∧
      ((parseLogResults (logTexts name failed)).lookup (0, 0) = some (0, 5) ∧
        ¬ ReadsForest name failed) := by
  intro name error consumed failed
  have hconsumed : (parseLogResults (logTexts name consumed)).lookup (0, 0) = some (0, 0) := by
    decide +kernel
  have hfailed : (parseLogResults (logTexts name failed)).lookup (0, 0) = some (0, 5) := by
    decide +kernel
  refine ⟨by decide +kernel, ⟨hconsumed, fun h => ?_⟩, ⟨hfailed, fun h => ?_⟩⟩
  · have hfiled := h.1 (0, 0)
    rw [hconsumed] at hfiled
    exact absurd hfiled (by decide +kernel)
  · have hfiled := h.1 (0, 0)
    rw [hfailed] at hfiled
    exact absurd hfiled (by decide +kernel)

end Svm
end Quasar
