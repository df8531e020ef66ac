import Quasar.Svm.Scripted
import Quasar.Svm.TraceOrder

/-!
# TraceResult — when the trace and the raw result agree

The result of a trace entry is 0 unless the parser finds a failure under the entry's depth and
position.  An execution that ends in an error therefore has a trace without any failure when the
failure line is missing, or when it is filed under another position than the failing frame's.
-/

namespace Quasar
namespace Svm

open Lib

/-! ## Logs without failures -/

/-- The parser reads the line as a failure. -/
def ReadsFailure (log : String) : Prop :=
  parseInvokeLog log = none ∧ parseConsumedLog log = none ∧ parseResultLog log = some 1

/-- Every result code found so far is 0. -/
def LogParser.NoFailure (s : LogParser) : Prop :=
  ∀ key figures, s.results.lookup key = some figures → figures.1 = 0

theorem LogParser.noFailure_modifyOrInsert {results : LogResults} {u : Update Figures}
    (h : ∀ key figures, results.lookup key = some figures → figures.1 = 0)
    (hu : ∀ o : Option Figures, (∀ e, o = some e → e.1 = 0) → (u o).1 = 0) (key : UInt8 × Nat) :
    ∀ key' figures,
      (modifyOrInsert results key (fun e => u (some e)) (u none)).lookup key' = some figures →
        figures.1 = 0 := by
  intro key' figures hlookup
  rw [lookup_modifyOrInsert] at hlookup
  by_cases hkey : key = key'
  · rw [if_pos hkey] at hlookup
    cases hlookup
    exact hu _ fun e he => h key e he
  · rw [if_neg hkey] at hlookup
    exact h key' figures hlookup

theorem LogParser.NoFailure.step {s : LogParser} (h : s.NoFailure) {log : String}
    (hlog : ¬ ReadsFailure log) : (s.step log).NoFailure := by
  unfold LogParser.step
  cases hinvoke : parseInvokeLog log with
  | some depth => exact h
  | none =>
      cases hconsumed : parseConsumedLog log with
      | some units =>
          -- A line of units keeps the code of the entry it changes.
          rcases s with ⟨results, stack, counter⟩
          cases stack with
          | nil => exact h
          | cons key stack =>
              refine noFailure_modifyOrInsert (u := unitsUpdate units) h ?_ key
              intro o ho
              cases o with
              | none => rfl
              | some e => exact ho e rfl
      | none =>
          cases hresult : parseResultLog log with
          | none => exact h
          | some code =>
              -- The third guard of `parse_log_results`: here the code is written.
              have hcode : code = 0 := by
                rcases parseResultLog_cases hresult with hcode | hcode
                · exact hcode
                · rw [hcode] at hresult
                  exact absurd ⟨hinvoke, hconsumed, hresult⟩ hlog
              subst hcode
              rcases s with ⟨results, stack, counter⟩
              cases stack with
              | nil => exact h
              | cons key stack =>
                  refine noFailure_modifyOrInsert (u := codeUpdate 0) h ?_ key
                  intro o _
                  cases o with
                  | none => rfl
                  | some e => rfl

theorem LogParser.NoFailure.run {s : LogParser} (h : s.NoFailure) {logs : List String}
    (hlogs : ∀ log ∈ logs, ¬ ReadsFailure log) : (s.run logs).NoFailure := by
  induction logs generalizing s with
  | nil => exact h
  | cons log logs ih =>
      exact ih (h.step (hlogs log List.mem_cons_self))
        fun log' h' => hlogs log' (List.mem_cons_of_mem _ h')

section Lines

variable (name : Nat → String)

end Lines

/-! ## The invocation that failed -/

namespace Failure

/-- Its position among the invocations of the instruction, in the order in which they started. -/
def position : Failure → Nat
  | unresolved _ => 0
  | failed _ _ _ => 0
  | aborted _ body cause _ => body.size + cause.position + 1

/-- Its program is known, so its failure is logged. -/
def resolved : Failure → Bool
  | unresolved _ => false
  | failed _ _ _ => true
  | aborted _ _ cause _ => cause.resolved

end Failure

/-! ## Chains -/

namespace Chain

variable {cr : Crates} {rt : Runtime} {svm : QuasarSvm} {ixs : List Instruction}
  {accounts : List Account} (chain : Chain cr rt svm ixs accounts)

/-- The failure that ended the chain. -/
def failure : Option Failure :=
  match chain.processed.getLast? with
  | some (.failed f) => some f
  | _ => none

/-- The instructions before the one that failed. -/
def before : List Processed :=
  chain.processed.dropLast

variable {chain}

section Result

variable {r : ExecutionResult}

end Result

end Chain

end Svm
end Quasar
