import Quasar.Svm.LogLine

/-!
# Collector — which of the lines that are logged are recorded

A collector drops every line that would reach its byte limit and goes on with the next one, so what
it records of a log is not an initial part of it.  The first line that it drops leaves a notice,
which the parser passes over: what is recorded is read like the lines that were kept.
-/

namespace Quasar
namespace Svm

open Lib

namespace LogCollector

/-- The message stays below the limit. -/
def fits (c : LogCollector) (message : String) : Bool :=
  match c.bytesLimit with
  | none => true
  | some limit => c.bytesWritten + message.utf8ByteSize < limit

@[simp] theorem bytesLimit_log (c : LogCollector) (message : String) :
    (c.log message).bytesLimit = c.bytesLimit := by
  cases hlimit : c.bytesLimit with
  | none => simp [log, hlimit]
  | some limit =>
      simp only [log, hlimit]
      split
      · split
        · exact hlimit
        · rfl
      · rfl

/-- Only a collector with a limit counts bytes, and only those of messages that fit. -/
theorem bytesWritten_log (c : LogCollector) (message : String) :
    (c.log message).bytesWritten =
      if c.bytesLimit.isSome ∧ c.fits message then
        c.bytesWritten + message.utf8ByteSize
      else
        c.bytesWritten := by
  cases hlimit : c.bytesLimit with
  | none => simp [log, hlimit]
  | some limit =>
      by_cases hlt : c.bytesWritten + message.utf8ByteSize < limit
      · simp [log, hlimit, fits, hlt, Nat.not_le_of_lt hlt]
      · have hle : limit ≤ c.bytesWritten + message.utf8ByteSize := Nat.le_of_not_lt hlt
        simp only [log, hlimit, fits, hle, hlt, if_true, decide_false,
          Bool.false_eq_true, and_false, if_false]
        split
        · rfl
        · rfl

section Lines

variable {α : Type} (text : α → String)

/-- The lines that a collector keeps of those that it is given. -/
def keeps (c : LogCollector) : List α → List α
  | [] => []
  | l :: lines =>
      if c.fits (text l) then
        l :: (c.log (text l)).keeps lines
      else
        -- A shorter line may fit again.
        (c.log (text l)).keeps lines

variable {text}

theorem mem_of_mem_keeps {c : LogCollector} {lines : List α} {l : α}
    (h : l ∈ c.keeps text lines) : l ∈ lines := by
  induction lines generalizing c with
  | nil => cases h
  | cons l' lines ih =>
      unfold keeps at h
      by_cases hfits : c.fits (text l')
      · rw [if_pos hfits] at h
        rcases List.mem_cons.1 h with rfl | h
        · exact List.mem_cons_self
        · exact List.mem_cons_of_mem _ (ih h)
      · rw [if_neg hfits] at h
        exact List.mem_cons_of_mem _ (ih h)

theorem messages_of_fits {c : LogCollector} {message : String} (h : c.fits message) :
    (c.log message).messages = c.messages ++ [message] := by
  cases hlimit : c.bytesLimit with
  | none => simp [log, hlimit]
  | some limit =>
      have hlt : c.bytesWritten + message.utf8ByteSize < limit := by
        simpa [fits, hlimit] using h
      simp [log, hlimit, Nat.not_le_of_lt hlt]

/-- A message that is dropped leaves nothing behind, or the notice of a truncation. -/
theorem messages_of_not_fits {c : LogCollector} {message : String} (h : ¬ c.fits message) :
    (c.log message).messages = c.messages ∨
      (c.log message).messages = c.messages ++ ["Log truncated"] := by
  cases hlimit : c.bytesLimit with
  | none => exact absurd (by simp [fits, hlimit]) h
  | some limit =>
      have hle : limit ≤ c.bytesWritten + message.utf8ByteSize := by
        simpa [fits, hlimit] using h
      cases hwarned : c.limitWarning with
      | true => exact Or.inl (by simp [log, hlimit, hle, hwarned])
      | false => exact Or.inr (by simp [log, hlimit, hle, hwarned])

/-- The notice of a truncation is passed over. -/
theorem readLine_truncated : readLine "Log truncated" = none :=
  readLine_eq_none_iff.2 (by decide)

/-- What is recorded is read like the lines that were kept. -/
theorem read_messages_logAll (lines : List α) (c : LogCollector) (t : Table UInt8 Figures) :
    t.read readLine (c.logAll (lines.map text)).messages =
      t.read readLine (c.messages ++ (c.keeps text lines).map text) := by
  induction lines generalizing c with
  | nil => simp [logAll, keeps]
  | cons l lines ih =>
      refine (ih (c.log (text l))).trans ?_
      by_cases hfits : c.fits (text l)
      · simp [keeps, hfits, messages_of_fits hfits]
      · have hkeeps : c.keeps text (l :: lines) = (c.log (text l)).keeps text lines := by
          simp [keeps, hfits]
        -- The parser cannot tell the two cases apart.
        rcases messages_of_not_fits hfits with hsame | hnotice
        · rw [hsame, hkeeps]
        · rw [hnotice, hkeeps]
          simp [Table.read, readLine_truncated]

/-- What is kept depends on the bytes that are written and on the limit only. -/
theorem keeps_congr {c c' : LogCollector} (hlimit : c.bytesLimit = c'.bytesLimit)
    (hwritten : c.bytesWritten = c'.bytesWritten) (lines : List α) :
    c.keeps text lines = c'.keeps text lines := by
  induction lines generalizing c c' with
  | nil => rfl
  | cons l lines ih =>
      have hfits : c.fits (text l) = c'.fits (text l) := by simp only [fits, hlimit, hwritten]
      have hrest : (c.log (text l)).keeps text lines = (c'.log (text l)).keeps text lines := by
        refine ih ?_ ?_
        · simpa only [bytesLimit_log] using hlimit
        · simp only [bytesWritten_log, hfits, hlimit, hwritten]
      simp only [keeps, hfits, hrest]

/-- A collector whose limit is not reached keeps every line. -/
theorem keeps_of_size {c : LogCollector} {lines : List α}
    (h : ∀ limit, c.bytesLimit = some limit →
      c.bytesWritten + ((lines.map text).map String.utf8ByteSize).sum < limit) :
    c.keeps text lines = lines := by
  induction lines generalizing c with
  | nil => rfl
  | cons l lines ih =>
      simp only [List.map_cons, List.sum_cons] at h
      have hfits : c.fits (text l) := by
        cases hlimit : c.bytesLimit with
        | none => simp [fits, hlimit]
        | some limit =>
            have hsize := h limit hlimit
            have hlt : c.bytesWritten + (text l).utf8ByteSize < limit := by omega
            simp [fits, hlimit, hlt]
      -- The sum of what is left stays below what is left of the limit.
      have hrest : (c.log (text l)).keeps text lines = lines := by
        refine ih ?_
        intro limit hlimit
        rw [bytesLimit_log] at hlimit
        have hsize := h limit hlimit
        simp only [bytesWritten_log, hlimit, hfits, Option.isSome_some, and_self, if_true]
        omega
      simp [keeps, hfits, hrest]

end Lines

theorem logAll_append (c : LogCollector) (xs ys : List String) :
    (c.logAll xs).logAll ys = c.logAll (xs ++ ys) := by
  simp [logAll]

end LogCollector

end Svm
end Quasar
