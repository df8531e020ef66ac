import Quasar.Lib.Numbering
import Quasar.Svm.Trace

/-!
# LogReading — the log parser fills in a table

The parser keeps its findings in a map from pairs of depth and number.  Seen abstractly it fills a
table with one row for each invoke line: `readLine` says what the parser makes of a line, and
`Refines` that the map, the stack and the counter of the parser are those of a table.
-/

namespace Quasar
namespace Svm

open Lib

/-- Result code and compute units of an invocation. -/
abbrev Figures := UInt64 × UInt64

def unitsUpdate (units : UInt64) : Update Figures
  | some e => (e.1, units)
  | none => (0, units)

def codeUpdate (code : UInt64) : Update Figures
  | some e => (code, e.2)
  | none => (code, 0)

/-- What the parser makes of a line. -/
def readLine (log : String) : Option (Mark UInt8 Figures) :=
  match parseInvokeLog log with
  | some depth => some (.enter (UInt8.ofNat (depth.toNat - 1)))
  | none =>
      match parseConsumedLog log with
      | some units => some (.note (unitsUpdate units))
      | none => (parseResultLog log).map fun code => .leave (codeUpdate code)

/-- A line that the parser passes over. -/
def Inert (log : String) : Prop :=
  parseInvokeLog log = none ∧ parseConsumedLog log = none ∧ parseResultLog log = none

instance (log : String) : Decidable (Inert log) := by
  unfold Inert
  infer_instance

theorem readLine_eq_none_iff {log : String} : readLine log = none ↔ Inert log := by
  unfold readLine Inert
  cases parseInvokeLog log with
  | some depth => simp
  | none =>
      cases parseConsumedLog log with
      | some units => simp
      | none => simp

theorem parseResultLog_cases {log : String} {code : UInt64} (h : parseResultLog log = some code) :
    code = 0 ∨ code = 1 := by
  by_cases hsuccess : successMarker <:+: log.toList
  · exact Or.inl (Option.some.inj ((if_pos hsuccess).symm.trans h)).symm
  · -- The success marker wins where both occur.
    have hrest := (if_neg hsuccess).symm.trans h
    by_cases hfailed : failedMarker <:+: log.toList
    · exact Or.inr (Option.some.inj ((if_pos hfailed).symm.trans hrest)).symm
    · cases (if_neg hfailed).symm.trans hrest

/-- A line that is not inert opens an invocation, records units, or closes one with code 0 or 1. -/
theorem readLine_cases {log : String} {m : Mark UInt8 Figures} (h : readLine log = some m) :
    (∃ d, m = .enter d) ∨ (∃ units, m = .note (unitsUpdate units)) ∨
      ∃ code, (code = 0 ∨ code = 1) ∧ m = .leave (codeUpdate code) := by
  cases hinvoke : parseInvokeLog log with
  | some depth =>
      simp only [readLine, hinvoke, Option.some.injEq] at h
      exact Or.inl ⟨_, h.symm⟩
  | none =>
      cases hconsumed : parseConsumedLog log with
      | some units =>
          simp only [readLine, hinvoke, hconsumed, Option.some.injEq] at h
          exact Or.inr (Or.inl ⟨units, h.symm⟩)
      | none =>
          simp only [readLine, hinvoke, hconsumed] at h
          rcases Option.map_eq_some_iff.1 h with ⟨code, hcode, rfl⟩
          exact Or.inr (Or.inr ⟨code, parseResultLog_cases hcode, rfl⟩)

/-- The figures of the row at a key's number, when that row has the key's depth. -/
def tableLookup (rows : List (UInt8 × Option Figures)) (key : UInt8 × Nat) : Option Figures :=
  (rows[key.2]?).bind fun r => if r.1 = key.1 then r.2 else none

namespace LogParser

/-! ## Refinement -/

/-- The parser's state is that of a table. -/
structure Refines (s : LogParser) (t : Table UInt8 Figures) : Prop where
  results : ∀ key, s.results.lookup key = tableLookup t.rows key
  stack : List.Forall₂ (fun key i => key.2 = i ∧ (t.rows[i]?).map Prod.fst = some key.1) s.stack
    t.stack
  counter : s.instructionCounter = t.rows.length

theorem refines_init : Refines init Table.init := by
  refine ⟨?_, List.Forall₂.nil, rfl⟩
  intro key
  rfl

theorem lookup_modifyOrInsert (results : LogResults) (key : UInt8 × Nat) (u : Update Figures)
    (key' : UInt8 × Nat) :
    (modifyOrInsert results key (fun e => u (some e)) (u none)).lookup key' =
      if key = key' then some (u (results.lookup key)) else results.lookup key' := by
  unfold modifyOrInsert
  cases hlookup : results.lookup key with
  | some e => simp [HashMap.lookup_insert_eq]
  | none => simp [HashMap.lookup_insert_eq]

/-- Updating a row changes what the table says about that row's key and nothing else. -/
theorem tableLookup_updateRow (t : Table UInt8 Figures) {key : UInt8 × Nat} (u : Update Figures)
    (hrow : (t.rows[key.2]?).map Prod.fst = some key.1) (key' : UInt8 × Nat) :
    tableLookup (t.updateRow key.2 u) key' =
      if key = key' then some (u (tableLookup t.rows key)) else tableLookup t.rows key' := by
  rcases key with ⟨d, i⟩
  rcases key' with ⟨d', i'⟩
  rcases Option.map_eq_some_iff.1 hrow with ⟨r, hr, rfl⟩
  unfold tableLookup Table.updateRow
  rw [List.getElem?_modify]
  by_cases hi : i = i'
  · -- The row itself, which the other key may still miss by its depth.
    subst hi
    simp only at hr
    by_cases hd : r.1 = d'
    · simp [hr, hd]
    · simp [hr, hd]
  · simp [hi]

/-- Updating a row keeps the depths of all rows. -/
theorem depth_updateRow (t : Table UInt8 Figures) (i j : Nat) (u : Update Figures) :
    ((t.updateRow i u)[j]?).map Prod.fst = (t.rows[j]?).map Prod.fst := by
  rw [Table.updateRow, List.getElem?_modify]
  cases t.rows[j]? with
  | none => rfl
  | some r =>
      by_cases h : i = j
      · simp [h]
      · simp [h]

theorem Refines.openInvocation {s : LogParser} {t : Table UInt8 Figures} (h : Refines s t)
    (depth : UInt8) :
    Refines (s.openInvocation depth) (t.step (.enter (UInt8.ofNat (depth.toNat - 1)))) := by
  refine ⟨?_, ?_, ?_⟩
  · intro key
    rw [LogParser.openInvocation, h.results key]
    unfold tableLookup
    simp only [Table.step]
    by_cases hkey : key.2 < t.rows.length
    · rw [List.getElem?_append_left hkey]
    · -- The new row says nothing yet.
      have hle : t.rows.length ≤ key.2 := Nat.le_of_not_lt hkey
      rw [List.getElem?_eq_none hle, List.getElem?_append_right hle]
      cases key.2 - t.rows.length with
      | zero => simp
      | succ n => simp
  · -- The counter is the number of the new row, and the open rows keep their places.
    refine List.Forall₂.cons ⟨h.counter, by simp [Table.step]⟩ (h.stack.imp ?_)
    intro key i hki
    refine ⟨hki.1, ?_⟩
    rcases Option.map_eq_some_iff.1 hki.2 with ⟨r, hr, hd⟩
    have hlt : i < t.rows.length := (List.getElem?_eq_some_iff.1 hr).1
    simp [Table.step, List.getElem?_append_left hlt, hr, hd]
  · simp [LogParser.openInvocation, Table.step, h.counter]

/-- The open invocations after an update of a row are those before. -/
theorem stack_updateRow {t : Table UInt8 Figures} {keys : List (UInt8 × Nat)} {is : List Nat}
    (h : List.Forall₂ (fun key i => key.2 = i ∧ (t.rows[i]?).map Prod.fst = some key.1) keys is)
    (j : Nat) (u : Update Figures) :
    List.Forall₂ (fun key i => key.2 = i ∧ ((t.updateRow j u)[i]?).map Prod.fst = some key.1)
      keys is := by
  refine h.imp ?_
  intro key i hki
  exact ⟨hki.1, (depth_updateRow t j i u).trans hki.2⟩

/-- The parser's update under a key is the table's update of the key's row. -/
theorem Refines.lookup_update {s : LogParser} {t : Table UInt8 Figures} (h : Refines s t)
    {key : UInt8 × Nat} (hrow : (t.rows[key.2]?).map Prod.fst = some key.1) (u : Update Figures)
    (key' : UInt8 × Nat) :
    (modifyOrInsert s.results key (fun e => u (some e)) (u none)).lookup key' =
      tableLookup (t.updateRow key.2 u) key' := by
  calc (modifyOrInsert s.results key (fun e => u (some e)) (u none)).lookup key'
      = if key = key' then some (u (s.results.lookup key)) else s.results.lookup key' :=
        lookup_modifyOrInsert s.results key u key'
    _ = if key = key' then some (u (tableLookup t.rows key)) else tableLookup t.rows key' := by
        rw [h.results key, h.results key']
    _ = tableLookup (t.updateRow key.2 u) key' := (tableLookup_updateRow t u hrow key').symm

theorem Refines.recordUnits {s : LogParser} {t : Table UInt8 Figures} (h : Refines s t)
    (units : UInt64) : Refines (s.recordUnits units) (t.step (.note (unitsUpdate units))) := by
  rcases s with ⟨results, stack, counter⟩
  rcases t with ⟨rows, open_⟩
  have hstack := h.stack
  cases hstack with
  | nil => exact h
  | @cons key i stack open_ hki hrest =>
      rcases hki with ⟨rfl, hrow⟩
      refine ⟨h.lookup_update hrow (unitsUpdate units),
        stack_updateRow h.stack key.2 (unitsUpdate units), ?_⟩
      simpa [LogParser.recordUnits, Table.step, Table.updateRow] using h.counter

theorem Refines.closeInvocation {s : LogParser} {t : Table UInt8 Figures} (h : Refines s t)
    (code : UInt64) : Refines (s.closeInvocation code) (t.step (.leave (codeUpdate code))) := by
  rcases s with ⟨results, stack, counter⟩
  rcases t with ⟨rows, open_⟩
  have hstack := h.stack
  cases hstack with
  | nil => exact h
  | @cons key i stack open_ hki hrest =>
      rcases hki with ⟨rfl, hrow⟩
      refine ⟨h.lookup_update hrow (codeUpdate code),
        stack_updateRow hrest key.2 (codeUpdate code), ?_⟩
      simpa [LogParser.closeInvocation, Table.step, Table.updateRow] using h.counter

/-- One line takes the parser and its table to a parser and its table. -/
theorem Refines.step {s : LogParser} {t : Table UInt8 Figures} (h : Refines s t) (log : String) :
    Refines (s.step log) (t.read readLine [log]) := by
  -- The cases follow the three guards of the loop of `parse_log_results`.
  unfold LogParser.step
  cases hinvoke : parseInvokeLog log with
  | some depth =>
      have hread : readLine log = some (.enter (UInt8.ofNat (depth.toNat - 1))) := by
        simp [readLine, hinvoke]
      simpa [Table.read, hread] using h.openInvocation depth
  | none =>
      cases hconsumed : parseConsumedLog log with
      | some units =>
          have hread : readLine log = some (.note (unitsUpdate units)) := by
            simp [readLine, hinvoke, hconsumed]
          simpa [Table.read, hread] using h.recordUnits units
      | none =>
          cases hresult : parseResultLog log with
          | some code =>
              have hread : readLine log = some (.leave (codeUpdate code)) := by
                simp [readLine, hinvoke, hconsumed, hresult]
              simpa [Table.read, hread] using h.closeInvocation code
          | none =>
              have hread : readLine log = none := by
                simp [readLine, hinvoke, hconsumed, hresult]
              simpa [Table.read, hread] using h

theorem Refines.run {s : LogParser} {t : Table UInt8 Figures} (h : Refines s t)
    (logs : List String) : Refines (s.run logs) (t.read readLine logs) := by
  induction logs generalizing s t with
  | nil => exact h
  | cons log logs ih =>
      have hrest := ih (h.step log)
      rw [← Table.read_append] at hrest
      exact hrest

end LogParser

/-- What `parseLogResults` finds under a key is what the table of the log has there. -/
theorem lookup_parseLogResults (logs : List String) (key : UInt8 × Nat) :
    (parseLogResults logs).lookup key =
      tableLookup (Table.init.read readLine logs).rows key :=
  (LogParser.refines_init.run logs).results key

end Svm
end Quasar
